import ClusterBilling.Rates.Surcharge
import ClusterBilling.Proofs.Text.Trimming

/-!
# The rows of surcharge tables

What the lines of the two tables say, apart from any table: which lines are rows, and with which
columns (`Row`), which of them are valid (`RateRow`, `UnitsRow`) and which name a kind of workload
that does not exist (`UnknownInRates`, `UnknownInUnits`).

A row is read by itself. A table reads its lines in order and stops at the first that names an
unknown kind of workload, so that going through the lines with the table in hand comes to reading
all rows first and entering them afterwards (`foldlM_read_eq`).
-/

namespace ClusterBilling

section FirstLine

variable {β γ : Type} {lines : List String} {P : String → β → Prop}

/-- The first line of which something holds, and what holds of it. -/
def FirstLine (lines : List String) (P : String → β → Prop) (b : β) : Prop :=
  ∃ before line after, lines = before ++ line :: after ∧ P line b ∧
    ∀ earlier ∈ before, ∀ c, ¬ P earlier c

theorem findSome?_eq_some_iff_firstLine {f : String → Option β}
    (gives : ∀ line b, f line = some b ↔ P line b) (lines : List String) (b : β) :
    lines.findSome? f = some b ↔ FirstLine lines P b := by
  simp only [List.findSome?_eq_some_iff, FirstLine, Option.eq_none_iff_forall_ne_some, gives, ne_eq]

theorem exists_firstLine_iff : (∃ b, FirstLine lines P b) ↔ ∃ line ∈ lines, ∃ b, P line b := by
  constructor
  · rintro ⟨b, before, line, after, rfl, holds, _⟩
    exact ⟨line, by simp, b, holds⟩
  · rintro ⟨line, mem, b, holds⟩
    induction lines with
    | nil => cases mem
    | cons head rest ih =>
      by_cases first : ∃ c, P head c
      · obtain ⟨c, first⟩ := first
        exact ⟨c, [], head, rest, rfl, first, nofun⟩
      · rcases List.mem_cons.mp mem with rfl | mem
        · exact absurd ⟨b, holds⟩ first
        · obtain ⟨c, before, line, after, rfl, holds, none⟩ := ih mem
          refine ⟨c, head :: before, line, after, rfl, holds, fun earlier mem => ?_⟩
          rcases List.mem_cons.mp mem with rfl | mem
          · exact not_exists.mp first
          · exact none earlier mem

theorem firstLine_map_iff {f : β → γ} {c : γ} :
    FirstLine lines (fun line c => ∃ b, P line b ∧ c = f b) c ↔
      ∃ b, FirstLine lines P b ∧ c = f b := by
  constructor
  · rintro ⟨before, line, after, parts, ⟨b, holds, rfl⟩, none⟩
    exact ⟨b, ⟨before, line, after, parts, holds, fun earlier mem d earlierHolds =>
      none earlier mem (f d) ⟨d, earlierHolds, rfl⟩⟩, rfl⟩
  · rintro ⟨b, ⟨before, line, after, parts, holds, none⟩, rfl⟩
    exact ⟨before, line, after, parts, ⟨b, holds, rfl⟩, fun earlier mem _ ⟨d, earlierHolds, _⟩ =>
      none earlier mem d earlierHolds⟩

end FirstLine

section Reading

variable {ρ σ : Type} (read : String → Except Fault (Option ρ))

/-- The fault that a line is refused with. -/
def fault? (line : String) : Option Fault :=
  match read line with
  | .error fault => some fault
  | .ok _ => none

/-- The row that a line gives. -/
def given? (line : String) : Option ρ :=
  match read line with
  | .error _ => none
  | .ok row => row

theorem fault?_eq_some_iff {line : String} {fault : Fault} :
    fault? read line = some fault ↔ read line = .error fault := by
  unfold fault?
  cases read line <;> simp

theorem given?_eq_some_iff {line : String} {row : ρ} :
    given? read line = some row ↔ read line = .ok (some row) := by
  unfold given?
  cases read line <;> simp

/-- **Reading lines into a table** comes to this: the first line that is refused refuses the whole,
and without one all rows are entered in order. -/
theorem foldlM_read_eq {step : σ → String → Except Fault σ} {enter : σ → ρ → σ}
    (reads : ∀ table line, step table line = (read line).map fun row =>
      row.elim table (enter table)) (table : σ) (lines : List String) :
    lines.foldlM step table =
      match lines.findSome? (fault? read) with
      | some fault => .error fault
      | none => .ok ((lines.filterMap (given? read)).foldl enter table) := by
  induction lines generalizing table with
  | nil => rfl
  | cons line rest ih =>
    rw [List.foldlM_cons, reads]
    cases known : read line with
    | error fault =>
      have refused : fault? read line = some fault := (fault?_eq_some_iff read).mpr known
      rw [List.findSome?_cons, refused]
      rfl
    | ok row =>
      have accepted : fault? read line = none := by rw [fault?, known]
      have given : given? read line = row := by rw [given?, known]
      rw [List.findSome?_cons, accepted]
      refine (ih _).trans ?_
      cases row with
      | none => rw [List.filterMap_cons_none given]; rfl
      | some row => rw [List.filterMap_cons_some given]; rfl

variable {step : σ → String → Except Fault σ} {enter : σ → ρ → σ} {lines : List String}
  {table : σ}

theorem foldlM_read_eq_error_iff {β : Type} {P : String → β → Prop} {f : β → Fault}
    (reads : ∀ table line, step table line = (read line).map fun row =>
      row.elim table (enter table))
    (refuses : ∀ line fault, read line = .error fault ↔ ∃ b, P line b ∧ fault = f b)
    {fault : Fault} :
    lines.foldlM step table = .error fault ↔ ∃ b, FirstLine lines P b ∧ fault = f b := by
  have first := findSome?_eq_some_iff_firstLine
    (fun line fault => (fault?_eq_some_iff read).trans (refuses line fault)) lines fault
  rw [← firstLine_map_iff, ← first, foldlM_read_eq read reads]
  cases lines.findSome? (fault? read) <;> simp

theorem eq_foldl_of_foldlM_read
    (reads : ∀ table line, step table line = (read line).map fun row =>
      row.elim table (enter table))
    {final : σ} (done : lines.foldlM step table = .ok final) :
    final = (lines.filterMap (given? read)).foldl enter table := by
  rw [foldlM_read_eq read reads] at done
  cases refused : lines.findSome? (fault? read) with
  | some fault =>
    rw [refused] at done
    cases done
  | none =>
    rw [refused] at done
    exact (Except.ok.inj done).symm

end Reading

theorem map_eq_ok_iff {ε α β : Type} {x : Except ε α} {f : α → β} {b : β} :
    x.map f = .ok b ↔ ∃ a, x = .ok a ∧ f a = b := by
  cases x <;> simp [Except.map]

theorem map_eq_error_iff {ε α β : Type} {x : Except ε α} {f : α → β} {e : ε} :
    x.map f = .error e ↔ x = .error e := by
  cases x <;> simp [Except.map]

namespace Workload

theorem mem_all (w : Workload) : w ∈ all := by
  cases w <;> decide

/-- No two kinds of workload have the same label, whatever the case. -/
theorem eq_of_sameUpToAsciiCase {a b : Workload} {text : String}
    (first : Text.sameUpToAsciiCase a.label text) (second : Text.sameUpToAsciiCase b.label text) :
    a = b := by
  simp only [Text.sameUpToAsciiCase, beq_iff_eq] at first second
  have same := first.trans second.symm
  revert same
  cases a <;> cases b <;> decide

/-- A label names one kind of workload at most, and without one it is refused. -/
theorem ofLabel_cases (text : String) :
    (∃ w : Workload, ofLabel text = .ok w ∧ Text.sameUpToAsciiCase w.label (Text.trim text)) ∨
      ofLabel text = .error (.unknownWorkloadLabel (Text.trim text)) ∧
        ∀ w : Workload, ¬ Text.sameUpToAsciiCase w.label (Text.trim text) := by
  simp only [ofLabel]
  cases found : all.find? fun w => Text.sameUpToAsciiCase w.label (Text.trim text) with
  | some w =>
    have same := List.find?_some found
    exact .inl ⟨w, rfl, same⟩
  | none =>
    have unknown := List.find?_eq_none.mp found
    exact .inr ⟨rfl, fun w => unknown w w.mem_all⟩

theorem ofLabel_eq_ok_iff {text : String} {w : Workload} :
    ofLabel text = .ok w ↔ Text.sameUpToAsciiCase w.label (Text.trim text) := by
  obtain ⟨v, known, same⟩ | ⟨refused, unknown⟩ := ofLabel_cases text
  · rw [known, Except.ok.injEq]
    exact ⟨fun equal => equal ▸ same, eq_of_sameUpToAsciiCase same⟩
  · rw [refused]
    exact ⟨nofun, fun same => absurd same (unknown w)⟩

theorem ofLabel_eq_error_iff {text : String} {fault : Fault} :
    ofLabel text = .error fault ↔
      (∀ w : Workload, ¬ Text.sameUpToAsciiCase w.label (Text.trim text)) ∧
        fault = .unknownWorkloadLabel (Text.trim text) := by
  obtain ⟨v, known, same⟩ | ⟨refused, unknown⟩ := ofLabel_cases text
  · rw [known]
    exact ⟨nofun, fun ⟨unknown, _⟩ => absurd same (unknown v)⟩
  · rw [refused, Except.error.injEq]
    exact ⟨fun equal => ⟨unknown, equal.symm⟩, fun ⟨_, equal⟩ => equal.symm⟩

end Workload

namespace Surcharge

/-- A row and its columns: a line that is not blank and not a comment; tabs set the columns off,
and blanks around them do not count. -/
structure Row (line : String) (columns : List String) : Prop where
  filled : ∃ c ∈ line.toList, Text.isBlank c = false
  uncommented : line.toList.head? ≠ some '#'
  columns_eq : columns = (Text.splitOn '\t' line).map Text.trim

theorem trimmed_columns (line : String) :
    ((Text.trimBackIf (fun c => c = '\r' || c = '\n') line.toList).splitOn '\t').map
        (fun column => String.ofList (Text.trimChars column))
      = (Text.splitOn '\t' line).map Text.trim := by
  have ends (c : Char) (mem : c ∈ line.toList.rtakeWhile fun c => c = '\r' || c = '\n') :
      c = '\r' ∨ c = '\n' := by
    simpa using List.mem_rtakeWhile_imp mem
  have pieces := Text.trimmed_splitOn_append '\t'
    (line.toList.rdropWhile fun c => c = '\r' || c = '\n')
    (fun c mem => by rcases ends c mem with rfl | rfl <;> rfl)
    (fun mem => by simpa using ends _ mem)
  rw [List.rdropWhile_append_rtakeWhile] at pieces
  have trim : Text.trim ∘ String.ofList = String.ofList ∘ Text.trimChars :=
    funext fun cs => by simp only [Function.comp_apply, Text.trim, String.toList_ofList]
  have texts := congrArg (List.map String.ofList) pieces
  rw [List.map_map, List.map_map, ← trim] at texts
  rw [Text.splitOn, List.map_map, texts, Text.trimBackIf_eq, trim]
  rfl

theorem columns?_eq_some_iff {line : String} {columns : List String} :
    columns? line = some columns ↔ Row line columns := by
  have blank : (Text.trimChars line.toList).isEmpty ↔ ∀ c ∈ line.toList, Text.isBlank c := by
    rw [List.isEmpty_iff, Text.trimChars_eq_nil_iff]
  simp only [columns?, trimmed_columns]
  split
  next skipped =>
    refine ⟨nofun, fun ⟨⟨c, mem, filled⟩, uncommented, _⟩ => ?_⟩
    rcases Bool.or_eq_true_iff.mp skipped with empty | comment
    · rw [blank.mp empty c mem] at filled
      cases filled
    · exact absurd (eq_of_beq comment) uncommented
  next counts =>
    obtain ⟨filled, uncommented⟩ := not_or.mp (mt Bool.or_eq_true_iff.mpr counts)
    rw [blank] at filled
    push Not at filled
    rw [Option.some.injEq]
    refine ⟨fun columns => ⟨?_, ?_, columns.symm⟩, fun row => row.columns_eq.symm⟩
    · simpa using filled
    · simpa using uncommented

theorem Row.trim_eq {line column : String} {columns : List String} (row : Row line columns)
    (mem : column ∈ columns) : Text.trim column = column := by
  rw [row.columns_eq] at mem
  obtain ⟨raw, -, rfl⟩ := List.mem_map.mp mem
  exact Text.trim_trim raw

/-- Three columns that give a number for a kind of workload and a plan. -/
structure Gives (label plan number : String) (key : RateKey) (value : Float) : Prop where
  named : Text.sameUpToAsciiCase key.workload.label label
  plan_eq : key.plan = ServicePlan.ofText plan
  reads : Decimal.readFloat? number = some value
  finite : value.isFinite

/-- A valid row of the table of rates. -/
def RateRow (line : String) (key : RateKey) (cost : Float) : Prop :=
  ∃ label plan number more, Row line (label :: plan :: number :: more) ∧
    Gives label plan number key cost

/-- A row of the table of units that is valid if there is a rate to go with it. -/
def UnitsRow (line : String) (kind : InstanceKind) (key : RateKey) (units : Float) : Prop :=
  ∃ label plan number more, Row line (kind :: label :: plan :: number :: more) ∧
    Gives label plan number key units

/-- A label of no kind of workload. -/
def Unknown (label : String) : Prop :=
  ∀ w : Workload, Text.sameUpToAsciiCase w.label label = false

/-- A row of the table of rates with an unknown label. -/
def UnknownInRates (line label : String) : Prop :=
  (∃ plan number more, Row line (label :: plan :: number :: more)) ∧ Unknown label

/-- A row of the table of units with an unknown label. -/
def UnknownInUnits (line label : String) : Prop :=
  (∃ kind plan number more, Row line (kind :: label :: plan :: number :: more)) ∧ Unknown label

theorem number?_eq_some_iff {text : String} {value : Float} :
    number? text = some value ↔ Decimal.readFloat? text = some value ∧ value.isFinite := by
  unfold number?
  cases Decimal.readFloat? text with
  | none => simp
  | some x =>
    rw [Option.ite_none_right_eq_some, Option.some.injEq]
    constructor
    · rintro ⟨finite, rfl⟩
      exact ⟨rfl, finite⟩
    · rintro ⟨rfl, finite⟩
      exact ⟨finite, rfl⟩

/-- What the three columns of a row give. -/
def cell? (label plan number : String) : Except Fault (Option (RateKey × Float)) :=
  (Workload.ofLabel label).map fun workload =>
    (number? number).map fun value => (⟨workload, ServicePlan.ofText plan⟩, value)

section Cell

variable {label plan number : String} (trimmed : Text.trim label = label)
include trimmed

theorem cell?_eq_error_iff {fault : Fault} :
    cell? label plan number = .error fault ↔
      Unknown label ∧ fault = .unknownWorkloadLabel label := by
  rw [cell?, map_eq_error_iff, Workload.ofLabel_eq_error_iff, trimmed]
  simp only [Unknown, Bool.not_eq_true]

theorem cell?_eq_ok_iff {key : RateKey} {value : Float} :
    cell? label plan number = .ok (some (key, value)) ↔ Gives label plan number key value := by
  simp only [cell?, map_eq_ok_iff, Workload.ofLabel_eq_ok_iff, trimmed, Option.map_eq_some_iff,
    number?_eq_some_iff, Prod.mk.injEq]
  constructor
  · rintro ⟨workload, named, _, ⟨reads, finite⟩, rfl, rfl⟩
    exact ⟨named, rfl, reads, finite⟩
  · rintro ⟨named, plan_eq, reads, finite⟩
    exact ⟨key.workload, named, value, ⟨reads, finite⟩, by rw [← plan_eq], rfl⟩

end Cell

/-- What a line of the table of rates gives. -/
def rateRow? (line : String) : Except Fault (Option (RateKey × Float)) :=
  match columns? line with
  | some (label :: plan :: number :: _) => cell? label plan number
  | _ => .ok none

/-- Units and their cost for a kind of machine, a kind of workload and a plan. -/
structure UnitsEntry where
  kind : InstanceKind
  key : RateKey
  info : UnitInfo Float

/-- What a line of the table of units gives. -/
def unitsRow? (rates : RateTable Float) (line : String) : Except Fault (Option UnitsEntry) :=
  match columns? line with
  | some (kind :: label :: plan :: number :: _) =>
    (cell? label plan number).map fun cell => cell.bind fun (key, units) =>
      (rates.get? key).map fun rate => ⟨kind, key, ⟨units, rate * units⟩⟩
  | _ => .ok none

section Specification

variable {line : String} {fault : Fault} {key : RateKey}

theorem rateRow?_eq_error_iff : rateRow? line = .error fault ↔
    ∃ label, UnknownInRates line label ∧ fault = .unknownWorkloadLabel label := by
  constructor
  · intro refused
    unfold rateRow? at refused
    split at refused
    next label plan number more shape =>
      have row := columns?_eq_some_iff.mp shape
      obtain ⟨unknown, rfl⟩ := (cell?_eq_error_iff (row.trim_eq (by simp))).mp refused
      exact ⟨label, ⟨⟨plan, number, more, row⟩, unknown⟩, rfl⟩
    next => cases refused
  · rintro ⟨label, ⟨⟨plan, number, more, row⟩, unknown⟩, rfl⟩
    rw [rateRow?, columns?_eq_some_iff.mpr row]
    exact (cell?_eq_error_iff (row.trim_eq (by simp))).mpr ⟨unknown, rfl⟩

theorem rateRow?_eq_ok_iff {cost : Float} :
    rateRow? line = .ok (some (key, cost)) ↔ RateRow line key cost := by
  constructor
  · intro valid
    unfold rateRow? at valid
    split at valid
    next label plan number more shape =>
      have row := columns?_eq_some_iff.mp shape
      exact ⟨label, plan, number, more, row, (cell?_eq_ok_iff (row.trim_eq (by simp))).mp valid⟩
    next => cases valid
  · rintro ⟨label, plan, number, more, row, gives⟩
    rw [rateRow?, columns?_eq_some_iff.mpr row]
    exact (cell?_eq_ok_iff (row.trim_eq (by simp))).mpr gives

variable {rates : RateTable Float}

theorem unitsRow?_eq_error_iff : unitsRow? rates line = .error fault ↔
    ∃ label, UnknownInUnits line label ∧ fault = .unknownWorkloadLabel label := by
  constructor
  · intro refused
    unfold unitsRow? at refused
    split at refused
    next kind label plan number more shape =>
      have row := columns?_eq_some_iff.mp shape
      obtain ⟨unknown, rfl⟩ := (cell?_eq_error_iff (row.trim_eq (by simp))).mp
        (map_eq_error_iff.mp refused)
      exact ⟨label, ⟨⟨kind, plan, number, more, row⟩, unknown⟩, rfl⟩
    next => cases refused
  · rintro ⟨label, ⟨⟨kind, plan, number, more, row⟩, unknown⟩, rfl⟩
    rw [unitsRow?, columns?_eq_some_iff.mpr row]
    exact map_eq_error_iff.mpr ((cell?_eq_error_iff (row.trim_eq (by simp))).mpr ⟨unknown, rfl⟩)

/-- What is valid in the table of units costs the rate for each unit. -/
theorem unitsRow?_eq_ok_iff {kind : InstanceKind} {units cost : Float} :
    unitsRow? rates line = .ok (some ⟨kind, key, ⟨units, cost⟩⟩) ↔
      UnitsRow line kind key units ∧
        ∃ rate, rates.get? key = some rate ∧ cost = rate * units := by
  constructor
  · intro valid
    unfold unitsRow? at valid
    split at valid
    next kind' label plan number more shape =>
      have row := columns?_eq_some_iff.mp shape
      obtain ⟨cell, given, entry⟩ := map_eq_ok_iff.mp valid
      obtain ⟨⟨key', units⟩, rfl, entry⟩ := Option.bind_eq_some_iff.mp entry
      obtain ⟨rate, known, entry⟩ := Option.map_eq_some_iff.mp entry
      cases entry
      have gives := (cell?_eq_ok_iff (row.trim_eq (by simp))).mp given
      exact ⟨⟨label, plan, number, more, row, gives⟩, rate, known, rfl⟩
    next => cases valid
  · rintro ⟨⟨label, plan, number, more, row, gives⟩, rate, known, rfl⟩
    rw [unitsRow?, columns?_eq_some_iff.mpr row]
    refine map_eq_ok_iff.mpr ⟨_, (cell?_eq_ok_iff (row.trim_eq (by simp))).mpr gives, ?_⟩
    simp only [Option.bind_some, known, Option.map_some]

end Specification

theorem addRateRow_eq (rates : RateTable Float) (line : String) :
    addRateRow rates line = (rateRow? line).map fun row =>
      row.elim rates fun (key, cost) => rates.insertNew key cost := by
  unfold addRateRow rateRow?
  match columns? line with
  | none | some [] | some [_] | some [_, _] => rfl
  | some (label :: plan :: cost :: _) =>
    simp only [cell?]
    cases Workload.ofLabel label with
    | error fault => rfl
    | ok workload => cases number? cost <;> rfl

theorem addUnitsRow_eq (rates : RateTable Float) (table : SurchargeTable Float) (line : String) :
    addUnitsRow rates table line = (unitsRow? rates line).map fun row =>
      row.elim table fun entry => addUnits table entry.kind entry.key entry.info := by
  unfold addUnitsRow unitsRow?
  match columns? line with
  | none | some [] | some [_] | some [_, _] | some [_, _, _] => rfl
  | some (kind :: label :: plan :: units :: _) =>
    simp only [cell?]
    cases Workload.ofLabel label with
    | error fault => rfl
    | ok workload =>
      cases number? units with
      | none => rfl
      | some units =>
        simp only [bind, Except.bind, Except.map, Option.bind, Option.map]
        cases rates.get? ⟨workload, ServicePlan.ofText plan⟩ <;> rfl

end Surcharge

end ClusterBilling
