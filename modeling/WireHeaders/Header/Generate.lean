import WireHeaders.Discovery.Search
import WireHeaders.Header.Options
import WireHeaders.Header.Serializer

/-!
# Generated headers

One header for each source unit: its preamble and a macro with the serializers of its types.

## Main definitions

* `HeaderOptions.unitLines`, `HeaderOptions.unitText` — the header of a source unit
* `GeneratedFile` — a header with its source unit and its place
* `HeaderOptions.generate` — the headers of all source units

## Design notes

Source units are taken in path order.  Each one claims its output path, and a path may be claimed
once.
-/

namespace WireHeaders

/-- **A generated header**, with the source unit that it was made of.  Its path is spelled by the
suffix, with all slashes and dots that are in it. -/
structure GeneratedFile where
  source : Path
  /-- The place below the output directory. -/
  path : Path
  content : String
  deriving DecidableEq, Repr

def generationTarget : String := "genjson-serializers"

namespace HeaderOptions

/-- The lines before the first serializer; the last one opens the macro. -/
def preamble (options : HeaderOptions) : List String :=
  ["#include \"" ++ options.runtimeHeader ++ "\"",
    "#include <type_traits>",
    "",
    "#undef " ++ options.macroName,
    "#define " ++ options.macroName ++ "(...) \\"]

/-- **The lines of a header**: structs before enums, each followed by a line that only goes on.
From the last line of the preamble on every line ends in a backslash, which makes all
serializers one macro. -/
def unitLines (options : HeaderOptions) (direction : Direction) (unit : SourceUnit) :
    List String :=
  options.preamble ++
    (unit.structsFor direction).flatMap (fun r => structRecordLines r ++ ["\\"]) ++
    (unit.enumsFor direction).flatMap (fun r => enumRecordLines r ++ ["\\"])

def unitText (options : HeaderOptions) (direction : Direction) (unit : SourceUnit) : String :=
  linesText (options.unitLines direction unit)

def report (direction : Direction) (source output : Path) (unit : SourceUnit) : Event :=
  .generated source output direction (unit.structsFor direction).length
    (unit.enumsFor direction).length

/-- **The headers of a row of source units**, of which some output paths are claimed already.  A
path is claimed by its components, so two headers clash only if their paths compare equal, not if
they only lead to one file. -/
def generateFrom (options : HeaderOptions) (direction : Direction)
    (claimed : SortedMap Path Path) :
    List (Path × SourceUnit) → Logged GenerationError (List GeneratedFile)
  | [] => pure []
  | (source, unit) :: rest =>
    match options.outputPath source with
    | .error e => Logged.fail e
    | .ok path =>
      match claimed.get? path with
      | some first => Logged.fail (.outputCollision path first source)
      | none => do
        Logged.log (report direction source path unit)
        let files ← generateFrom options direction (claimed.insert path source) rest
        return ⟨source, path, options.unitText direction unit⟩ :: files

/-- **The headers of all source units**, in path order.  A clash anywhere leaves no header at all,
although those before it have been announced. -/
def generate (options : HeaderOptions) (direction : Direction) (units : Units) :
    Logged GenerationError (List GeneratedFile) :=
  options.generateFrom direction .empty units.toList

end HeaderOptions

end WireHeaders
