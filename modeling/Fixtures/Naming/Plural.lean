import Fixtures.Text.Case
import Fixtures.Text.WordCharacter

/-!
# Collection names

The documents of a type go to the collection named by the plural of the type's name in lower case.

## Shape of a rule

A rule looks at the end of the text only: word characters, then one of its stems, then one of its
endings. The earliest start counts. What the rule found without the ending, and with the plural
ending after it, is the plural; text before the first word character found is lost. The first rule
that applies decides, and a text to which none applies gets an `s`.
-/

namespace Fixtures.Naming

open Text (isWordCharacter)

/-- What may stand at one place of a stem. -/
inductive Slot where
  | char (c : Char)
  | oneOf (cs : List Char)
  | noneOf (cs : List Char)

/-- Whether a character may stand at the place. -/
def Slot.admits : Slot → Char → Bool
  | char c, d => c = d
  | oneOf cs, d => cs.contains d
  | noneOf cs, d => !cs.contains d

/-- A rule: texts that end in one of the stems and one of the endings get another ending. -/
structure Rule where
  stems : List (List Slot)
  endings : List String
  plural : String

/-- A stem that is one word. -/
def word (s : String) : List Slot := s.toList.map .char

/-- A place for one of some characters. -/
def oneOf (s : String) : Slot := .oneOf s.toList

/-- A place for any but some characters. -/
def noneOf (s : String) : Slot := .noneOf s.toList

/-- The rules, in the order in which they are tried. -/
def rules : List Rule := [
  ⟨[word "eaux"], [""], ""⟩,
  ⟨[word "child"], ["ren", ""], "ren"⟩,
  ⟨["person", "people"].map word, [""], "ople"⟩,
  ⟨["mice", "lice", "mouse", "louse"].map word, [""], "ice"⟩,
  ⟨["matr", "cod", "mur", "sil", "vert", "ind", "append"].map word, ["ix", "ex"], "ices"⟩,
  ⟨["x", "ch", "ss", "sh", "zz"].map word, [""], "es"⟩,
  ⟨["xes", "ches", "sses", "shes", "zzes"].map word, [""], ""⟩,
  ⟨[[noneOf "ch", oneOf "ieo", oneOf "ln"]], ["ey"], "ies"⟩,
  ⟨[[noneOf "aeiouy"], word "qu"], ["y"], "ies"⟩,
  ⟨["ar", "l", "ea", "eo", "oa", "hoo"].map word, ["f"], "ves"⟩,
  ⟨["kni", "wi", "li"].map word, ["fe"], "ves"⟩,
  ⟨[[]], ["sis"], "ses"⟩,
  ⟨["apheli", "hyperbat", "periheli", "asyndet", "noumen", "phenomen", "criteri", "organ",
      "prolegomen", "hedr", "automat"].map word, ["a", "on"], "a"⟩,
  ⟨["agend", "addend", "millenni", "dat", "extrem", "bacteri", "desiderat", "strat",
      "candelabr", "errat", "ov", "symposi", "curricul", "automat", "quor"].map word,
    ["a", "um"], "a"⟩,
  ⟨["her", "at", "gr"].map word, ["o"], "oes"⟩,
  ⟨["seraph", "cherub"].map word, ["im", ""], "im"⟩,
  ⟨["alumn", "alg", "vertebr"].map word, ["a", "ae"], "ae"⟩,
  ⟨["alumn", "syllab", "octop", "vir", "radi", "nucle", "fung", "cact", "stimul", "termin",
      "bacill", "foc", "uter", "loc", "strat"].map word, ["us", "i"], "i"⟩,
  ⟨[noneOf "l" :: word "ias", oneOf "aeiou" :: word "las", oneOf "emjzr" :: word "as",
      oneOf "iu" :: word "am"], [""], ""⟩,
  ⟨[[.char 'e', oneOf "mn", .char 'u']], ["s", ""], "s"⟩,
  ⟨[word "alias", noneOf "aou" :: word "us", word "tlas", word "gas", word "ris"], [""], "es"⟩,
  ⟨["ax", "test"].map word, ["is"], "es"⟩,
  ⟨[noneOf "aeiou" :: word "ese"], [""], ""⟩,
  ⟨[[]], ["s"], "s"⟩]

/-- The rest of a reversed text before a reversed stem. -/
def beforeStem? : (stem : List Slot) → (text : List Char) → Option (List Char)
  | [], text => some text
  | _ :: _, [] => none
  | slot :: stem, c :: text => if slot.admits c then beforeStem? stem text else none

/-- What a rule keeps of a reversed text if it ends in the stem and the ending. -/
def keptBy? (stem : List Slot) (ending : String) (text : List Char) : Option (List Char) := do
  let atStem ← beforeStem? (word ending).reverse text
  let before ← beforeStem? stem.reverse atStem
  let lead := before.takeWhile isWordCharacter
  some ((atStem.take (lead.length + stem.length)).reverse)

/-- Whether one choice of stem and ending starts earlier than another. -/
def longer (a b : List Char × String) : Bool :=
  b.1.length + b.2.length < a.1.length + a.2.length

/-- The plural by a rule, if it applies. -/
def Rule.pluralOf? (rule : Rule) (text : List Char) : Option (List Char) :=
  let found := rule.endings.flatMap fun ending =>
    rule.stems.filterMap fun stem => (keptBy? stem ending text.reverse).map (·, ending)
  match found with
  | [] => none
  | first :: others =>
    some ((others.foldl (fun best x => if longer x best then x else best) first).1 ++
      rule.plural.toList)

/-- Words with a plural of their own. -/
def irregular : List (String × String) := [
  ("ox", "oxen"), ("man", "men"), ("woman", "women"), ("die", "dice"), ("yes", "yeses"),
  ("foot", "feet"), ("eave", "eaves"), ("goose", "geese"), ("tooth", "teeth"), ("quiz", "quizzes")]

/-- Words that are their own plural. -/
def uncountable : List String := [
  "accommodation", "adulthood", "advertising", "advice", "aggression", "aid", "air", "aircraft",
  "alcohol", "anger", "applause", "arithmetic", "assistance", "athletics", "bacon", "baggage",
  "beef", "biology", "blood", "botany", "bread", "butter", "carbon", "cardboard", "cash",
  "chalk", "chaos", "chess", "crossroads", "countryside", "dancing", "deer", "dignity", "dirt",
  "dust", "economics", "education", "electricity", "engineering", "enjoyment", "envy",
  "equipment", "ethics", "evidence", "evolution", "fame", "fiction", "flour", "flu", "food",
  "fuel", "fun", "furniture", "gallows", "garbage", "garlic", "genetics", "gold", "golf",
  "gossip", "grammar", "gratitude", "grief", "guilt", "gymnastics", "happiness", "hardware",
  "harm", "hate", "hatred", "health", "heat", "help", "homework", "honesty", "honey",
  "hospitality", "housework", "humour", "hunger", "hydrogen", "ice", "importance", "inflation",
  "information", "innocence", "iron", "irony", "jam", "jewelry", "judo", "karate", "knowledge",
  "lack", "laughter", "lava", "leather", "leisure", "lightning", "linguine", "linguini",
  "linguistics", "literature", "litter", "livestock", "logic", "loneliness", "luck", "luggage",
  "macaroni", "machinery", "magic", "management", "mankind", "marble", "mathematics",
  "mayonnaise", "measles", "methane", "milk", "money", "mud", "music", "mumps", "nature", "news",
  "nitrogen", "nonsense", "nurture", "nutrition", "obedience", "obesity", "oxygen", "pasta",
  "patience", "physics", "poetry", "pollution", "poverty", "pride", "psychology", "publicity",
  "punctuation", "quartz", "racism", "relaxation", "reliability", "research", "respect",
  "revenge", "rice", "rubbish", "rum", "safety", "scenery", "seafood", "seaside", "series",
  "shame", "sheep", "shopping", "sleep", "smoke", "smoking", "snow", "soap", "software", "soil",
  "spaghetti", "species", "steam", "stuff", "stupidity", "sunshine", "symmetry", "tennis",
  "thirst", "thunder", "timber", "traffic", "transportation", "trust", "underwear",
  "unemployment", "unity", "validity", "veal", "vegetation", "vegetarianism", "vengeance",
  "violence", "vitality", "warmth", "wealth", "weather", "welfare", "wheat", "wildlife",
  "wisdom", "yoga", "zinc", "zoology"]

/-- The plural of a text. -/
def plural (text : String) : String :=
  if uncountable.contains text then text
  else
    match irregular.lookup text with
    | some other => other
    | none =>
      match rules.findSome? (·.pluralOf? text.toList) with
      | some p => String.ofList p
      | none => text ++ "s"

/-- The collection for the documents of a type. -/
def collectionName (typeName : String) : String :=
  plural (String.ofList (Text.toLower typeName.toList))

end Fixtures.Naming
