import Panorama.Memory

/-!
# Gain tables

One row of gains per template, with one gain per source.
-/

namespace Panorama

/-- Gains by template and source. -/
structure GainTable where
  rows : List (List Float32)
  deriving DecidableEq

namespace GainTable

/-- Bytes of a gain. -/
def gainBytes : Nat := 4

/-- Bytes by which a table refers to one of its rows. -/
def rowBytes : Nat := 24

/-- The table in which every gain is one; none if no buffer can hold a row or all of them. -/
def unity? (templates sources : Nat) : Option GainTable :=
  if Memory.holds sources gainBytes && Memory.holds templates rowBytes then
    some ⟨List.replicate templates (List.replicate sources 1)⟩
  else none

/-- The gains of a template. -/
def row? (table : GainTable) (template : Nat) : Option (List Float32) :=
  table.rows[template]?

/-- The gain of a source in a template, and one where the table has none. -/
def get (table : GainTable) (template source : Nat) : Float32 :=
  ((table.row? template).bind (·[source]?)).getD 1

/-- Replace a row by another one of the same length. -/
def set? (table : GainTable) (template : Nat) (gains : List Float32) : Option GainTable := do
  let row ← table.row? template
  if row.length = gains.length then some ⟨table.rows.set template gains⟩ else none

end GainTable

end Panorama
