import StaticContext.Context.Error
import StaticContext.Script.Parse
import StaticContext.Text.Property.Class

/-! Source files. A text is parsed only if it mentions `require.context(`, however the blanks between
its parts run; the mention may not go on a word before it. -/

namespace StaticContext

structure Source where
  path : Path
  text : String
deriving DecidableEq, Repr, Inhabited

namespace Mention

/-- The text behind a word that opens it. -/
def after? (word : String) (text : List Char) : Option (List Char) :=
  if word.toList.isPrefixOf text then some (text.drop word.length) else none

def skipBlanks (text : List Char) : List Char := text.dropWhile Text.isBlank

/-- Whether a mention opens the text. -/
def starts (text : List Char) : Bool :=
  ((after? "require" text).bind fun text =>
    (after? "." (skipBlanks text)).bind fun text =>
      (after? "context" (skipBlanks text)).bind fun text =>
        after? "(" (skipBlanks text)).isSome

/-- Whether a mention is in a text, `inWord` if the text goes on a word. -/
def occursFrom (inWord : Bool) : List Char → Bool
  | [] => false
  | c :: rest => (!inWord && starts (c :: rest)) || occursFrom (Text.isWord c) rest

end Mention

/-- The language of files with an extension. -/
def Script.Dialect.ofExtension (extension : Option String) : Script.Dialect :=
  match extension with
  | some "ts" | some "mts" | some "cts" => ⟨true, false⟩
  | some "tsx" => ⟨true, true⟩
  | some "jsx" => ⟨false, true⟩
  | _ => ⟨false, false⟩

namespace Source

def mentionsContext (s : Source) : Bool := Mention.occursFrom false s.text.toList

def dialect (s : Source) : Script.Dialect := .ofExtension (s.path.extension?.bind Utf8.decode?)

/-- Context calls are seen from here. -/
def directory (s : Source) : Path := s.path.parent

/-- The place of a byte of the text. -/
def position (s : Source) (offset : Nat) : Text.Position :=
  .ofOffset (Script.withoutByteOrderMark s.text.toList) offset

def parse (s : Source) : Except ContextError Script.Program :=
  match Script.Program.parse s.dialect s.text.toList with
  | .ok program => .ok program
  | .error fault => .error (.unparsable s.path (s.position fault.offset) fault.cause)

end Source
end StaticContext
