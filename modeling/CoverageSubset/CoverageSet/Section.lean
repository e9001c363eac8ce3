import CoverageSubset.Fault

/-!
# Sections of a description

The parts of a description that a request can select. Without a selection, and with the section that
stands for all, every part is included.
-/

namespace CoverageSubset

/-- A part of a description (specification 12.6, `Sections`). -/
inductive Section where
  | all
  | coverages
  | series
deriving DecidableEq

/-- A name that no section has. -/
structure UnknownSection where
  name : String
deriving DecidableEq

/-- The fault as the service reports it. -/
def UnknownSection.toFault (u : UnknownSection) : Fault :=
  .invalidParameter "sections" ("Unknown section: " ++ u.name)

namespace Section

/-- The name of a section in a request. -/
def name : Section → String
  | all => "All"
  | coverages => "CoverageDescriptions"
  | series => "DatasetSeriesDescriptions"

/-- The sections. -/
def every : List Section := [all, coverages, series]

/-- The section of a name. -/
def ofName (s : String) : Except UnknownSection Section :=
  match every.find? fun v ↦ v.name == s with
  | some v => .ok v
  | none => .error ⟨s⟩

/-- Each section is that of its name. -/
theorem ofName_name (v : Section) : ofName v.name = .ok v := by cases v <;> rfl

/-- A selection includes a section (specification 12.6, absent sections mean all). -/
def isIncluded (v : Section) : Option (List Section) → Bool
  | none => true
  | some selected => selected.contains all || selected.contains v

end Section

end CoverageSubset
