import WireHeaders.Generation.Error

/-!
# Options of generated headers

## Main definitions

* `HeaderOptions` — what may be chosen about headers
* `HeaderOptions.standard` — what is chosen unless something else is asked for
* `HeaderOptions.outputPath` — where the header of a source unit goes
-/

namespace WireHeaders

/-- **What may be chosen about headers.**  Each of the three may be any text.  In particular
a suffix may hold slashes and dots, and then it says more of the place of a header than how
its name ends. -/
structure HeaderOptions where
  /-- What the base name of a source unit is extended by. -/
  suffix : String
  /-- The macro that holds all serializers of a header. -/
  macroName : String
  /-- The header that each header includes. -/
  runtimeHeader : String
  deriving DecidableEq, Repr

namespace HeaderOptions

def standard : HeaderOptions := ⟨".genjson.h", "GENJSON_SERIALIZERS", "GenJsonSerializer.h"⟩

instance : Inhabited HeaderOptions := ⟨standard⟩

/-- **Where the header of a source unit goes.**  The folders of the unit do not count, so units
with one base name share a place.  There is none for a path that does not end in a name. -/
def outputPath (options : HeaderOptions) (source : Path) : Except GenerationError Path :=
  match source.baseName? with
  | some base => .ok ⟨base ++ options.suffix⟩
  | none => .error (.invalidSourcePath source)

end HeaderOptions

end WireHeaders
