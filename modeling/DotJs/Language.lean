import DotJs.FilePath

/-!
# Languages

The extension of a file says in which language it is written: with types or
without, with markup elements or without, as a module or as a plain script. A
file with any other extension is read as a module of plain code.
-/

namespace DotJs

/-- The language of a source text, by what `Source.parse` asks of it. The four questions are
independent of each other; `Language.ofPath` says which answers go together. -/
structure Language where
  /-- types and the declarations that go with them -/
  types : Bool
  /-- markup elements -/
  markup : Bool
  /-- a module, in which `await` is reserved at the top -/
  isModule : Bool
  /-- a definition file, where everything is a declaration -/
  definitions : Bool
  deriving DecidableEq, Repr

namespace Language

/-- A module of plain code: what a file is read as whose extension says nothing else. -/
def plain : Language := ⟨false, false, true, false⟩

/-- The language of a file, by the part of its name behind the last dot. The stem of a definition
file ends in the part `d`; before `ts`, one more part may follow, as in `style.d.css.ts`. -/
def ofPath (path : FilePath) : Language :=
  match FilePath.stemAndExtension? path with
  | none => plain
  | some (stem, extension) =>
    let last := (piecesBetween '.' stem).reverse
    let d : Text := ['d']
    if extension = "ts".toList then ⟨true, false, true, (last.take 2).contains d⟩
    else if extension = "mts".toList then
      ⟨true, false, true, decide (1 < last.length) && last.head? == some d⟩
    else if extension = "cts".toList then
      ⟨true, false, false, decide (1 < last.length) && last.head? == some d⟩
    else if extension = "tsx".toList then ⟨true, true, true, false⟩
    else if extension = "jsx".toList then ⟨false, true, true, false⟩
    else if extension = "cjs".toList then ⟨false, false, false, false⟩
    else plain

end Language

end DotJs
