/-!
# Wordweave — messages

What the program says on its own account, in the languages it speaks. A message is found by its key;
a key without a message stands for itself. Languages are known by their tags, in which case is of no
account, and whoever asks for another one is given the first.
-/

namespace Wordweave

/-- The messages of one language. -/
structure Catalog where
  language : String
  messages : List (String × String)
deriving DecidableEq

namespace Catalog

/-- The message of a key. -/
def text (c : Catalog) (key : String) : String :=
  ((c.messages.find? (·.1 == key)).map (·.2)).getD key

/-- The key of the message that stands in for every answer if there is no vocabulary. -/
def missingTable : String := "missing-table"

/-- The messages in English. -/
def english : Catalog := ⟨"en-US", [(missingTable, "[Missing vocabulary]")]⟩

/-- The messages in French. -/
def french : Catalog := ⟨"fr-FR", [(missingTable, "[Vocabulaire manquant]")]⟩

/-- All catalogs in order. -/
def all : List Catalog := [english, french]

/-- The catalog of a language. -/
def ofLanguage (language : String) : Catalog :=
  (all.find? (·.language.toLower == language.toLower)).getD english

end Catalog

end Wordweave
