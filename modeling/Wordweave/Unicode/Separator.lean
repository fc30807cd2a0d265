import Wordweave.Unicode.Description

/-!
# Wordweave — separators

Spaces, separators, control and format characters, and the code points set aside for private
use.
-/

namespace Wordweave.Unicode

/-- Spaces (Zs). -/
def spaces : Description := .listed
    "20 A0 1680 2000-200A 202F 205F 3000"

/-- The line separator (Zl). -/
def lineSeparators : Description := .listed
    "2028"

/-- The paragraph separator (Zp). -/
def paragraphSeparators : Description := .listed
    "2029"

/-- Control characters (Cc). -/
def controls : Description := .listed
    "0-1F 7F-9F"

/-- Format characters (Cf). -/
def formats : Description := .listed
    "AD 600-605 61C 6DD 70F 890-891 8E2 180E 200B-200F 202A-202E 2060-2064 2066-206F FEFF
     FFF9-FFFB 110BD 110CD 13430-1343F 1BCA0-1BCA3 1D173-1D17A E0001 E0020-E007F"

/-- Code points for private use (Co). -/
def privateUse : Description := .listed
    "E000-F8FF F0000-FFFFD 100000-10FFFD"

end Wordweave.Unicode
