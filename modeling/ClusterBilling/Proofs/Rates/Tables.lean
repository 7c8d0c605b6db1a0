import ClusterBilling.Proofs.OrderedMap
import ClusterBilling.Proofs.Rates.Rows

/-!
# What surcharge tables hold

In both tables the first valid row of a key counts. The table of rates is that of its rows, entered
one by one unless the key is taken (`get?_parseRates`). For the table of units, what is entered is
followed row by row: a table describes the entries it was made of (`SurchargeTable.Describes`), and
one more entry keeps that (`Describes.snoc`).
-/

namespace ClusterBilling

theorem findSome?_filterMap {α β γ : Type} (f : α → Option β) (g : β → Option γ) (all : List α) :
    (all.filterMap f).findSome? g = all.findSome? fun a => (f a).bind g := by
  induction all with
  | nil => rfl
  | cons a rest ih =>
    rw [List.findSome?_cons]
    cases given : f a with
    | none => rw [List.filterMap_cons_none given, ih, Option.bind_none]
    | some b => rw [List.filterMap_cons_some given, List.findSome?_cons, ih, Option.bind_some]

namespace SurchargeTable

theorem get?_eq (table : SurchargeTable Float) (kind : InstanceKind) (key : RateKey) :
    table.get? kind key.workload key.plan = (table.entries.getD kind .empty).get? key := by
  unfold get? OrderedMap.getD
  cases table.entries.get? kind <;> rfl

section AddUnits

variable {table : SurchargeTable Float} {kind : InstanceKind} {key : RateKey}
  (info : UnitInfo Float)

theorem addUnits_of_known {other : UnitInfo Float}
    (known : table.get? kind key.workload key.plan = some other) :
    Surcharge.addUnits table kind key info
      = { table with duplicates := table.duplicates + 1 } := by
  rw [get?_eq] at known
  simp [Surcharge.addUnits, OrderedMap.contains_eq_isSome, known]

theorem addUnits_of_new (new : table.get? kind key.workload key.plan = none) :
    Surcharge.addUnits table kind key info
      = { table with
          entries := table.entries.insert kind
            ((table.entries.getD kind .empty).insert key info) } := by
  rw [get?_eq] at new
  simp [Surcharge.addUnits, OrderedMap.contains_eq_isSome, new]

/-- An entry that is known stays. -/
theorem get?_addUnits (otherKind : InstanceKind) (other : RateKey) :
    (Surcharge.addUnits table kind key info).get? otherKind other.workload other.plan
      = (table.get? otherKind other.workload other.plan).or
          (if kind = otherKind ∧ key = other then some info else none) := by
  cases known : table.get? kind key.workload key.plan with
  | some old =>
    rw [addUnits_of_known info known]
    split
    · next same =>
      obtain ⟨rfl, rfl⟩ := same
      show table.get? kind key.workload key.plan = _
      rw [known, Option.some_or]
    · exact (Option.or_none ..).symm
  | none =>
    rw [addUnits_of_new info known, get?_eq, OrderedMap.getD, OrderedMap.get?_insert]
    by_cases sameKind : otherKind = kind
    · subst sameKind
      rw [if_pos rfl, Option.getD_some, OrderedMap.get?_insert, ← get?_eq]
      by_cases same : other = key
      · subst same
        rw [known]
        simp
      · simp [same, Ne.symm same]
    · rw [if_neg sameKind, if_neg fun same => sameKind same.1.symm, Option.or_none, get?_eq]
      rfl

theorem contains_addUnits (otherKind : InstanceKind) :
    (Surcharge.addUnits table kind key info).entries.contains otherKind ↔
      table.entries.contains otherKind ∨ kind = otherKind := by
  cases known : table.get? kind key.workload key.plan with
  | some old =>
    rw [addUnits_of_known info known]
    refine ⟨.inl, fun either => either.elim id ?_⟩
    rintro rfl
    obtain ⟨byRate, found, -⟩ := Option.bind_eq_some_iff.mp known
    rw [OrderedMap.contains_eq_isSome, found, Option.isSome_some]
  | none =>
    rw [addUnits_of_new info known, OrderedMap.contains_eq_isSome, OrderedMap.get?_insert]
    by_cases same : otherKind = kind
    · simp [same]
    · simp [same, Ne.symm same, OrderedMap.contains_eq_isSome]

end AddUnits

/-- What a table holds after some valid rows were entered. -/
structure Describes (entries : List Surcharge.UnitsEntry) (table : SurchargeTable Float) :
    Prop where
  get? : ∀ kind (key : RateKey), table.get? kind key.workload key.plan
    = entries.findSome? fun entry =>
        if entry.kind = kind ∧ entry.key = key then some entry.info else none
  duplicates : table.duplicates + (entries.map fun entry => (entry.kind, entry.key)).toFinset.card
    = entries.length
  kinds : ∀ kind, table.entries.contains kind ↔ ∃ entry ∈ entries, entry.kind = kind

namespace Describes

variable {entries : List Surcharge.UnitsEntry} {table : SurchargeTable Float}

theorem isSome_iff (describes : Describes entries table) (kind : InstanceKind) (key : RateKey) :
    (table.get? kind key.workload key.plan).isSome ↔
      (kind, key) ∈ (entries.map fun entry => (entry.kind, entry.key)).toFinset := by
  rw [describes.get?, List.findSome?_isSome_iff]
  simp

theorem snoc (describes : Describes entries table) (entry : Surcharge.UnitsEntry) :
    Describes (entries ++ [entry])
      (Surcharge.addUnits table entry.kind entry.key entry.info) := by
  constructor
  case get? =>
    intro kind key
    rw [get?_addUnits, describes.get?, List.findSome?_append]
    simp
  case duplicates =>
    have isSome := describes.isSome_iff entry.kind entry.key
    have before := describes.duplicates
    rw [List.map_append, List.toFinset_append, List.map_singleton, List.toFinset_cons,
      List.toFinset_nil, Finset.union_insert, Finset.union_empty, List.length_append,
      List.length_singleton]
    cases known : table.get? entry.kind entry.key.workload entry.key.plan with
    | some old =>
      have mem := isSome.mp (by rw [known]; rfl)
      rw [addUnits_of_known entry.info known, Finset.insert_eq_of_mem mem]
      show table.duplicates + 1 + _ = _
      omega
    | none =>
      have new := mt isSome.mpr (by rw [known]; exact Bool.false_ne_true)
      rw [addUnits_of_new entry.info known, Finset.card_insert_of_notMem new]
      show table.duplicates + _ = _
      omega
  case kinds =>
    intro kind
    rw [contains_addUnits, describes.kinds]
    simp [or_and_right, exists_or]

end Describes

theorem describes_foldl (entries : List Surcharge.UnitsEntry) :
    Describes entries (entries.foldl
      (fun table entry => Surcharge.addUnits table entry.kind entry.key entry.info) .empty) := by
  induction entries using List.reverseRecOn with
  | nil => exact ⟨fun _ _ => rfl, rfl, fun _ => by simp [empty, OrderedMap.contains]⟩
  | append_singleton entries entry ih =>
    rw [List.foldl_append]
    exact ih.snoc entry

end SurchargeTable

namespace Surcharge

variable {ratesText unitsText : String} {rates : RateTable Float}
  {table : SurchargeTable Float} {key : RateKey}

/-- In the table of rates the first valid row of a key counts. -/
theorem get?_parseRates (parsed : parseRates ratesText = .ok rates) {cost : Float} :
    rates.get? key = some cost ↔
      FirstLine (Text.lines ratesText) (fun line => RateRow line key) cost := by
  rw [eq_foldl_of_foldlM_read rateRow? addRateRow_eq parsed,
    OrderedMap.get?_foldl_insertNew_entries, OrderedMap.get?_empty, Option.none_or,
    findSome?_filterMap]
  refine findSome?_eq_some_iff_firstLine (fun line cost => ?_) _ _
  rw [← rateRow?_eq_ok_iff, ← given?_eq_some_iff]
  cases given? rateRow? line <;> simp [Prod.ext_iff]

theorem isSome_parseRates (parsed : parseRates ratesText = .ok rates) :
    (∃ cost, rates.get? key = some cost) ↔
      ∃ line ∈ Text.lines ratesText, ∃ cost, RateRow line key cost := by
  rw [← exists_firstLine_iff]
  simp only [get?_parseRates parsed]

theorem describes_parseUnits (parsed : parseUnits rates unitsText = .ok table) :
    table.Describes ((Text.lines unitsText).filterMap (given? (unitsRow? rates))) := by
  rw [eq_foldl_of_foldlM_read (unitsRow? rates) (addUnitsRow_eq rates) parsed]
  exact SurchargeTable.describes_foldl _

/-- A valid row of the table of units: there is a valid row of rates to go with it. -/
def ValidUnitsRow (ratesText line : String) (kind : InstanceKind) (key : RateKey)
    (units : Float) : Prop :=
  UnitsRow line kind key units ∧ ∃ rateLine ∈ Text.lines ratesText, ∃ cost,
    RateRow rateLine key cost

section Parsed

variable (parsedRates : parseRates ratesText = .ok rates)
include parsedRates

theorem given?_unitsRow_iff {line : String} {kind : InstanceKind} {units cost : Float} :
    given? (unitsRow? rates) line = some ⟨kind, key, ⟨units, cost⟩⟩ ↔
      ValidUnitsRow ratesText line kind key units ∧
        ∃ rate, rates.get? key = some rate ∧ cost = rate * units := by
  rw [given?_eq_some_iff, unitsRow?_eq_ok_iff, ValidUnitsRow, ← isSome_parseRates parsedRates]
  constructor
  · rintro ⟨row, rate, known, cost⟩
    exact ⟨⟨row, rate, known⟩, rate, known, cost⟩
  · rintro ⟨⟨row, _⟩, rate, known, cost⟩
    exact ⟨row, rate, known, cost⟩

/-- A valid row makes an entry. -/
theorem ValidUnitsRow.exists_given? {line : String} {kind : InstanceKind} {units : Float}
    (valid : ValidUnitsRow ratesText line kind key units) :
    ∃ rate, rates.get? key = some rate ∧
      given? (unitsRow? rates) line = some ⟨kind, key, ⟨units, rate * units⟩⟩ := by
  obtain ⟨rate, known⟩ := (isSome_parseRates parsedRates).mpr valid.2
  exact ⟨rate, known, (given?_unitsRow_iff parsedRates).mpr ⟨valid, rate, known, rfl⟩⟩

theorem isSome_given?_unitsRow_iff {line : String} :
    (given? (unitsRow? rates) line).isSome ↔
      ∃ kind key units, ValidUnitsRow ratesText line kind key units := by
  rw [Option.isSome_iff_exists]
  constructor
  · rintro ⟨⟨kind, key, units, cost⟩, given⟩
    exact ⟨kind, key, units, ((given?_unitsRow_iff parsedRates).mp given).1⟩
  · rintro ⟨kind, key, units, valid⟩
    obtain ⟨rate, -, given⟩ := valid.exists_given? parsedRates
    exact ⟨_, given⟩

variable (parsedUnits : parseUnits rates unitsText = .ok table)
include parsedUnits

/-- In the table of units the first valid row of a kind of machine and a key counts. -/
theorem get?_parseUnits {kind : InstanceKind} {units cost : Float} :
    table.get? kind key.workload key.plan = some ⟨units, cost⟩ ↔
      FirstLine (Text.lines unitsText)
          (fun line => ValidUnitsRow ratesText line kind key) units ∧
        ∃ rate, FirstLine (Text.lines ratesText) (fun line => RateRow line key) rate ∧
          cost = rate * units := by
  have gives (line : String) (info : UnitInfo Float) :
      ((given? (unitsRow? rates) line).bind fun entry =>
          if entry.kind = kind ∧ entry.key = key then some entry.info else none) = some info ↔
        ValidUnitsRow ratesText line kind key info.unitsPerHour ∧
          ∃ rate, rates.get? key = some rate ∧ info.costPerHour = rate * info.unitsPerHour := by
    rw [← given?_unitsRow_iff parsedRates]
    cases given? (unitsRow? rates) line with
    | none => simp
    | some entry =>
      obtain ⟨_, _, _⟩ := entry
      simp [and_assoc]
  rw [(describes_parseUnits parsedUnits).get?, findSome?_filterMap,
    findSome?_eq_some_iff_firstLine gives]
  simp only [← get?_parseRates parsedRates]
  constructor
  · rintro ⟨before, line, after, parts, ⟨row, rate, known, cost⟩, none⟩
    refine ⟨⟨before, line, after, parts, row, fun earlier mem units row => ?_⟩, rate, known, cost⟩
    exact none earlier mem ⟨units, rate * units⟩ ⟨row, rate, known, rfl⟩
  · rintro ⟨⟨before, line, after, parts, row, none⟩, rate, known, cost⟩
    exact ⟨before, line, after, parts, ⟨row, rate, known, cost⟩, fun earlier mem info row =>
      none earlier mem info.unitsPerHour row.1⟩

theorem isSome_parseUnits {kind : InstanceKind} :
    (table.get? kind key.workload key.plan).isSome ↔
      ∃ line ∈ Text.lines unitsText, ∃ units, ValidUnitsRow ratesText line kind key units := by
  rw [← exists_firstLine_iff, Option.isSome_iff_exists]
  constructor
  · rintro ⟨⟨units, cost⟩, known⟩
    exact ⟨units, ((get?_parseUnits parsedRates parsedUnits).mp known).1⟩
  · rintro ⟨units, first⟩
    have ⟨_, _, _, _, valid, _⟩ := first
    obtain ⟨rate, known, -⟩ := valid.exists_given? parsedRates
    exact ⟨⟨units, rate * units⟩, (get?_parseUnits parsedRates parsedUnits).mpr
      ⟨first, rate, (get?_parseRates parsedRates).mp known, rfl⟩⟩

open scoped Classical in
/-- Every valid row makes an entry or counts as a duplicate. -/
theorem duplicates_parseUnits :
    table.duplicates + {entry : InstanceKind × RateKey |
        (table.get? entry.1 entry.2.workload entry.2.plan).isSome}.ncard
      = (Text.lines unitsText).countP fun line =>
          ∃ kind key units, ValidUnitsRow ratesText line kind key units := by
  have describes := describes_parseUnits parsedUnits
  have entries : {entry : InstanceKind × RateKey |
      (table.get? entry.1 entry.2.workload entry.2.plan).isSome} = _ :=
    Set.ext fun (kind, key) => (describes.isSome_iff kind key).trans Finset.mem_coe.symm
  rw [entries, Set.ncard_coe_finset, describes.duplicates, List.length_filterMap_eq_countP]
  exact List.countP_congr fun line _ => by
    rw [isSome_given?_unitsRow_iff parsedRates, decide_eq_true_iff]

theorem kinds_parseUnits : table.kinds
    = {kind | ∃ line ∈ Text.lines unitsText, ∃ key units,
        ValidUnitsRow ratesText line kind key units}.ncard := by
  rw [SurchargeTable.kinds, OrderedMap.size_eq_ncard]
  congr 1
  ext kind
  simp only [Set.mem_ofPred_eq, (describes_parseUnits parsedUnits).kinds, List.mem_filterMap]
  constructor
  · rintro ⟨⟨kind, key, units, cost⟩, ⟨line, mem, given⟩, rfl⟩
    exact ⟨line, mem, key, units, ((given?_unitsRow_iff parsedRates).mp given).1⟩
  · rintro ⟨line, mem, key, units, valid⟩
    obtain ⟨rate, -, given⟩ := valid.exists_given? parsedRates
    exact ⟨_, ⟨line, mem, given⟩, rfl⟩

end Parsed

open scoped Classical in
/-- **The first valid row counts.** Each table is refused exactly when one of its rows names an
unknown kind of workload, with the first label of that kind. Otherwise a kind of machine has an
entry for a kind of workload and a plan exactly when there is a valid row for it; the units are
those of the first such row, and what they cost goes by the first valid row of rates. The other
valid rows are counted as duplicates, and the kinds known are those of valid rows. -/
theorem tables_firstValidRows (ratesText unitsText : String) :
    (∀ fault, parseRates ratesText = .error fault ↔
      ∃ label, FirstLine (Text.lines ratesText) UnknownInRates label ∧
        fault = .unknownWorkloadLabel label) ∧
    (∀ rates fault, parseUnits rates unitsText = .error fault ↔
      ∃ label, FirstLine (Text.lines unitsText) UnknownInUnits label ∧
        fault = .unknownWorkloadLabel label) ∧
    ∀ rates table, parseRates ratesText = .ok rates → parseUnits rates unitsText = .ok table →
      (∀ kind (key : RateKey), (table.get? kind key.workload key.plan).isSome ↔
        ∃ line ∈ Text.lines unitsText, ∃ units, ValidUnitsRow ratesText line kind key units) ∧
      (∀ kind (key : RateKey) info, table.get? kind key.workload key.plan = some info ↔
        FirstLine (Text.lines unitsText)
            (fun line => ValidUnitsRow ratesText line kind key) info.unitsPerHour ∧
          ∃ rate, FirstLine (Text.lines ratesText) (fun line => RateRow line key) rate ∧
            info.costPerHour = rate * info.unitsPerHour) ∧
      table.duplicates + {entry : InstanceKind × RateKey |
          (table.get? entry.1 entry.2.workload entry.2.plan).isSome}.ncard
        = (Text.lines unitsText).countP (fun line =>
            ∃ kind key units, ValidUnitsRow ratesText line kind key units) ∧
      table.kinds = {kind | ∃ line ∈ Text.lines unitsText, ∃ key units,
        ValidUnitsRow ratesText line kind key units}.ncard := by
  refine ⟨fun fault => ?_, fun rates fault => ?_, fun rates table parsedRates parsedUnits => ?_⟩
  · exact foldlM_read_eq_error_iff rateRow? addRateRow_eq fun _ _ => rateRow?_eq_error_iff
  · exact foldlM_read_eq_error_iff (unitsRow? rates) (addUnitsRow_eq rates)
      fun _ _ => unitsRow?_eq_error_iff
  · exact ⟨fun kind key => isSome_parseUnits parsedRates parsedUnits,
      fun kind key info => get?_parseUnits parsedRates parsedUnits,
      duplicates_parseUnits parsedRates parsedUnits, kinds_parseUnits parsedRates parsedUnits⟩

end Surcharge

end ClusterBilling
