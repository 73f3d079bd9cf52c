import StaticContext.Script.Grammar.Module

/-! From text to tree. A fault the reader stops at is reported before one it went on after; of those,
the first. -/

namespace StaticContext.Script

/-- A mark of the encoding at the start of a text is no part of it. -/
def withoutByteOrderMark : List Char → List Char
  | '\uFEFF' :: rest => rest
  | text => text

/-- The line behind `#!` that opens a text. -/
def interpreterLine? : List Char → Option (List Char)
  | '#' :: '!' :: rest => some (rest.takeWhile (!isLineEnd ·))
  | _ => none

namespace Program

/-- Items up to the end of the text. -/
def items (g : Grammar) : Reads (List Tree) :=
  Reads.many (return (← Reads.current).kind = .textEnd) g.item

/-- Reads a module. Every rule takes a token before it comes round to itself, and there are fewer
rules between two tokens than levels per character. -/
def parse (dialect : Dialect) (text : List Char) : Except Fault Program :=
  let text := withoutByteOrderMark text
  let line := interpreterLine? text
  let skipped := match line with
    | some l => l.length + 2
    | none => 0
  let state := ReadState.start ((Cursor.ofText text).skip skipped)
  let bound := text.length + 8
  match items (Grammar.toDepth (6 * bound) .exhausted) (.top dialect bound) state with
  | .error fault => .error fault
  | .ok (body, state) =>
    match state.faults.getLast? with
    | some fault => .error fault
    | none => .ok ⟨line.map String.ofList, body⟩

end Program
end StaticContext.Script
