import Fixtures.Script.Refusal

/-!
# Tokens of a script

Words with a meaning of their own, marks, names and literals. `leadsOperand` says after which tokens a
minus sign belongs to the number behind it.
-/

namespace Fixtures.Script

/-- A token. -/
inductive Token where
  | int (n : Int64)
  | float (x : Float)
  | char (c : Char)
  | string (s : String)
  /-- Text up to an expression inside it. -/
  | openText (s : String)
  | name (s : String)
  | word (s : String)
  | mark (s : String)
  | reserved (s : String)
  | bad (complaint : Complaint)
  | finish
  deriving BEq

/-- A token and the place where it begins. -/
structure Lexeme where
  token : Token
  place : Place
  deriving BEq

/-- The words with a meaning of their own. -/
def keywords : List String :=
  ["true", "false", "let", "const", "if", "else", "switch", "do", "while", "until", "loop", "for",
    "in", "continue", "break", "fn", "private", "return", "throw", "try", "catch"]

/-- The words that may be called like functions although they are reserved. -/
def callableWords : List String :=
  ["print", "debug", "type_of", "eval", "Fn", "call", "curry", "is_shared", "is_def_var",
    "is_def_fn"]

/-- The callable words that may follow a dot. -/
def methodWords : List String := ["print", "debug", "type_of", "call", "curry", "is_shared"]

/-- The words kept for later. -/
def reservedWords : List String :=
  callableWords ++
    ["this", "var", "static", "shared", "with", "is", "goto", "match", "case", "public", "protected",
      "new", "use", "import", "export", "as", "module", "package", "super", "spawn", "thread", "go", "sync", "async", "await",
      "yield", "default", "void", "null", "nil"]

/-- The marks, longest first. -/
def marks : List String :=
  ["**=", "<<=", ">>=", "...", "..=", "===", "!==", "::<",
    "()", "(*", "*)", "#\x7b", "#!", "+=", "++", "-=", "->", "--", "*=", "**", "/=", "..", "==",
    "=>", "::", ":=", ":;", "<=", "<-", "<<", "<|", ">=", ">>", "!=", "!.", "||", "|=", "|>", "&&",
    "&=", "^=", "%=", "??", "?.", "?[",
    "\x7b", "\x7d", "(", ")", "[", "]", "+", "-", "*", "/", ";", ",", ".", "=", ":", "<", ">", "!",
    "|", "&", "^", "%", "~", "@", "$", "?", "#"]

/-- The marks that mean nothing. -/
def reservedMarks : List String :=
  ["...", "===", "!==", "::<", "(*", "*)", "#!", "++", "--", "->", ":=", ":;", "<-", "<|", "!.",
    "|>", "~", "@", "$", "?", "#"]

/-- What is said about marks that mean something elsewhere. -/
def foreignMark? : String → Option String
  | "===" => "'===' is not a valid operator. This is not JavaScript! Should it be '=='?"
  | "!==" => "'!==' is not a valid operator. This is not JavaScript! Should it be '!='?"
  | "->" => "'->' is not a valid symbol. This is not C or C++!"
  | "<-" => "'<-' is not a valid symbol. This is not Go! Should it be '<='?"
  | ":=" =>
    "':=' is not a valid assignment operator. This is not Go or Pascal! Should it be simply '='?"
  | "::<" => "'::<>' is not a valid symbol. This is not Rust! Should it be '::'?"
  | "(*" => "'(*' is not a valid comment format. This is not Pascal! Should it be '/*'?"
  | "*)" => "'*)' is not a valid comment format. This is not Pascal! Should it be '*/'?"
  | "#" => "'#' is not a valid symbol. Should it be '#\x7b'?"
  | _ => none

/-- The token of a mark. -/
def Token.ofMark (s : String) : Token :=
  if reservedMarks.contains s then
    match foreignMark? s with
    | some explanation => .bad (.symbol explanation)
    | none => .reserved s
  else .mark s

/-- The token of a word. -/
def Token.ofWord (s : String) : Token :=
  if s = "_" then .mark s
  else if keywords.contains s then .word s
  else if reservedWords.contains s then .reserved s
  else if isWordLike s then .name s
  else .bad (.properName s)

/-- The operators that an assignment can apply first. -/
def assigningOperators : List String := ["+", "-", "*", "/", "**", "%", "<<", ">>", "&", "|", "^"]

/-- The operator of an assignment that applies one. -/
def assigned? (s : String) : Option String := assigningOperators.find? (· ++ "=" = s)

/-- The marks after which an operand is expected. -/
def operandMarks : List String :=
  [";", ":", ",", "??", "..", "..=", "\x7b", "(", "[", "+", "-", "*", "/", "%", "**", "<<",
    ">>", "=", "==", "!=", "<", ">", "<=", ">=", "!", "|", "&", "||", "&&", "^", "?["]

/-- Whether an operand is expected after a token, so that a minus sign is one of a number. -/
def Token.leadsOperand : Token → Bool
  | mark s => operandMarks.contains s || (assigned? s).isSome || s = "!in"
  | word s => ["if", "while", "until", "in", "return", "throw"].contains s
  | bad _ => true
  | _ => false

/-- The token as a message shows it. -/
def Token.text : Token → String
  | int n => Text.intText n.toInt
  | float _ => ""
  | char c => String.singleton c
  | string s => "\"" ++ s ++ "\""
  | openText _ => "string"
  | name s | word s | mark s | reserved s => s
  | bad c => c.message
  | finish => "\x7bEOF\x7d"

end Fixtures.Script
