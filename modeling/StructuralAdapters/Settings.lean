/-!
# Settings of the synthesis

* `Settings`: how strictly members are matched, how adapter types are named, and how much of a
  failure is reported;
* `Settings.merge`: one choice of settings over another.
-/

namespace StructuralAdapters

/-- How adapters are made. -/
structure Settings where
  /-- Whether matching members also have to return the same shape. -/
  strictReturns : Bool := false
  /-- The last part of the names of adapter types. -/
  adapterSuffix : String := "Adapter"
  /-- Whether every member that cannot be bound is reported, and not only the first. -/
  reportAllMissing : Bool := true
  deriving DecidableEq

namespace Settings

/-- A setting of `newer` replaces that of `base` where it differs from the default. -/
def merge (base newer : Settings) : Settings :=
  let default : Settings := {}
  { strictReturns :=
      if newer.strictReturns = default.strictReturns then base.strictReturns
      else newer.strictReturns
    adapterSuffix :=
      if newer.adapterSuffix = default.adapterSuffix then base.adapterSuffix
      else newer.adapterSuffix
    reportAllMissing :=
      if newer.reportAllMissing = default.reportAllMissing then base.reportAllMissing
      else newer.reportAllMissing }

/-- The settings after each of several merges, one after the other. -/
def mergeEach (base : Settings) : List Settings → List Settings
  | [] => []
  | newer :: rest => base.merge newer :: mergeEach (base.merge newer) rest

end Settings

end StructuralAdapters
