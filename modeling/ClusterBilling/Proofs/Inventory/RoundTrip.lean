import Mathlib
import ClusterBilling.Inventory.Codec
import ClusterBilling.Proofs.Json.Fields
import ClusterBilling.Proofs.Time.Notation

/-!
# Inventory records, written and read again

Many values are read as the same record: fields in any order or as an array, defaults left out,
members that nobody knows, instants with any offset. What is written for the record is one of them,
and it reads as that record again (`survives`), so that writing it once more changes nothing.

Two things could stand in the way. The size of a volume must be below the bound of sizes, which it
is if it was read. And a group with its instances is read from members that are kept, which asks for
numbers that are finite and for room for nesting: the sizes were finite where they were read, and
volumes need two levels below the group, wherever it stands.
-/

namespace ClusterBilling

open Json (asText? asList? asOptional? fields? required? defaulted?)

/-- **Whether a record survives being written**: whatever is read as a record, what is written for
the record reads as the same record, for which the same is written. -/
def Survives {α : Type} (read reread : Json → Option α) (write : α → Json) : Prop :=
  ∀ value record, read value = some record →
    ∃ again, reread (write record) = some again ∧ again = record ∧ write again = write record

theorem Survives.of_eq {α : Type} {read reread : Json → Option α} {write : α → Json}
    (same : ∀ value record, read value = some record → reread (write record) = some record) :
    Survives read reread write :=
  fun value record given => ⟨record, same value record given, rfl, rfl⟩

/-! ## Parts of records -/

theorem Instant.ofJson?_toJson (t : Instant) : ofJson? t.toJson = some t := by
  have text : asText? t.toJson = some t.text := rfl
  rw [ofJson?, text, Option.bind_some, readLenient?_text]

theorem Instant.toJson_ne_null (t : Instant) : t.toJson ≠ .null := by
  rw [toJson, Json.text]
  generalize t.text = text
  exact nofun

theorem PricingMode.ofJson?_toJson (mode : PricingMode) : ofJson? mode.toJson = some mode := by
  cases mode <;> decide

theorem ClusterState.ofJson?_toJson (state : ClusterState) : ofJson? state.toJson = some state := by
  cases state <;> decide

/-- An absent part is written as `null`, which nothing else is written as. -/
theorem asOptional?_elim {α : Type} {read : Json → Option α} {write : α → Json}
    (reads : ∀ one, read (write one) = some one) (some? : ∀ one, write one ≠ .null)
    (field : Option α) : asOptional? read (field.elim .null write) = some field := by
  cases field with
  | none => rfl
  | some one =>
    show asOptional? read (write one) = _
    unfold asOptional?
    split
    · next null => exact absurd null (some? one)
    · rw [reads, Option.map_some]

theorem RuntimeSignals.ofJson?_toJson (r : RuntimeSignals) : ofJson? r.toJson = some r := by
  have fields : fields? fieldNames r.toJson
      = some [some (.text r.jobFlag), some (.text r.runtimeVersion)] :=
    Json.fields?_record rfl (by decide)
  unfold ofJson?
  rw [fields]
  rfl

namespace Volume

/-- Whether the size of a volume is one of those that are read. -/
def Fits (v : Volume) : Prop := v.sizeGib < sizeBound

theorem ofJson?_toJson {v : Volume} (fits : v.Fits) : ofJson? v.toJson = some v := by
  have fields : fields? fieldNames v.toJson
      = some [some (.text v.volumeType), some (.nat v.sizeGib)] :=
    Json.fields?_record rfl (by decide)
  unfold ofJson?
  rw [fields]
  simp only [Option.bind_eq_bind, Json.required?_some, Json.asText?_text, Json.asNat?_nat fits,
    Option.bind_some, Option.pure_def]

/-- What a volume is read from: its second field is a number that stands for the size. -/
theorem exists_of_ofJson? {value : Json} {v : Volume} (given : ofJson? value = some v) :
    ∃ fields literal, fields? fieldNames value = some fields ∧ some (.number literal) ∈ fields
      ∧ Json.asNat? sizeBound (.number literal) = some v.sizeGib := by
  simp only [ofJson?, Option.bind_eq_bind, Option.bind_eq_some_iff] at given
  obtain ⟨fields, read, given⟩ := given
  split at given
  · next volumeType sizeGib =>
    simp only [Option.bind_eq_some_iff, Option.pure_def, Option.some.injEq] at given
    obtain ⟨kind, -, size, sized, rfl⟩ := given
    cases sizeGib with
    | none => cases sized
    | some field =>
      cases field with
      | number literal => exact ⟨_, literal, read, .tail _ (.head _), sized⟩
      | _ => cases sized
  · cases given

theorem fits_of_ofJson? {value : Json} {v : Volume} (given : ofJson? value = some v) : v.Fits := by
  obtain ⟨fields, literal, -, -, sized⟩ := exists_of_ofJson? given
  exact Json.lt_of_asNat? sized

/-- Whether the size of a volume is a finite number once it is written. -/
def Finite (v : Volume) : Prop := (Json.literalFloat? (toString v.sizeGib)).isSome = true

/-- The size of a volume is finite if the volume is kept where it is read. -/
theorem finite_of_ofJson? {value : Json} {v : Volume} {levels : Nat}
    (given : ofJson? value = some v) (kept : value.Kept levels = true) : v.Finite := by
  obtain ⟨fields, literal, read, mem, sized⟩ := exists_of_ofJson? given
  have finite : Json.Kept (levels - 1) (.number literal) = true :=
    (Json.kept_of_fields? kept read mem).2
  rw [Finite, Json.literalFloat?_of_asNat? sized]
  exact finite

end Volume

section Volumes

variable {value : Json} {volumes : List Volume}

theorem volumesOfJson?_volumesToJson (fit : ∀ v ∈ volumes, v.Fits) :
    volumesOfJson? (volumesToJson volumes) = some volumes :=
  Json.asList?_map fun v mem => Volume.ofJson?_toJson (fit v mem)

theorem fits_of_volumesOfJson? (given : volumesOfJson? value = some volumes) :
    ∀ v ∈ volumes, v.Fits := by
  intro v mem
  obtain ⟨elements, -, element, -, read⟩ := Json.exists_of_mem_asList? given mem
  exact Volume.fits_of_ofJson? read

theorem finite_of_volumesOfJson? {levels : Nat} (given : volumesOfJson? value = some volumes)
    (kept : value.Kept levels = true) : ∀ v ∈ volumes, v.Finite := by
  intro v mem
  obtain ⟨elements, rfl, element, inside, read⟩ := Json.exists_of_mem_asList? given mem
  obtain ⟨-, all⟩ := (Json.kept_array_iff levels elements).mp kept
  exact Volume.finite_of_ofJson? read (all element inside)

/-- **Volumes need two levels of nesting** and finite sizes to be kept. -/
theorem kept_volumesToJson {levels : Nat} (room : 2 ≤ levels) (finite : ∀ v ∈ volumes, v.Finite) :
    (volumesToJson volumes).Kept levels = true := by
  refine (Json.kept_array_iff levels _).mpr ⟨by omega, ?_⟩
  rw [List.forall_mem_map]
  intro v mem
  refine (Json.kept_record_iff (levels - 1) _).mpr ⟨by omega, ?_⟩
  rw [List.forall_mem_cons, List.forall_mem_singleton]
  exact ⟨rfl, finite v mem⟩

/-- Volumes are also read where they are left out, as none. -/
theorem fits_of_defaulted? {field : Option Json}
    (given : defaulted? [] volumesOfJson? field = some volumes) : ∀ v ∈ volumes, v.Fits := by
  cases field with
  | none => cases given; exact nofun
  | some value => exact fits_of_volumesOfJson? given

end Volumes

/-! ## Records -/

namespace ResourceGroup

theorem fields?_toJson (g : ResourceGroup) : fields? fieldNames g.toJson
    = some [some (.text g.id), some (.text g.role), some (.text g.instanceKind),
      some (volumesToJson g.volumes)] :=
  Json.fields?_record rfl (by decide)

theorem ofFields?_toJson {g : ResourceGroup} (fit : ∀ v ∈ g.volumes, v.Fits) :
    ofFields? [some (.text g.id), some (.text g.role), some (.text g.instanceKind),
      some (volumesToJson g.volumes)] = some g := by
  simp only [ofFields?, Option.bind_eq_bind, Json.required?_some, Json.defaulted?_some,
    Json.asText?_text, volumesOfJson?_volumesToJson fit, Option.bind_some, Option.pure_def]

/-- What the volumes of a group are read from. -/
theorem exists_of_ofFields? {fields : List (Option Json)} {g : ResourceGroup}
    (given : ofFields? fields = some g) :
    ∃ field ∈ fields, defaulted? [] volumesOfJson? field = some g.volumes := by
  unfold ofFields? at given
  split at given
  · next id role instanceKind volumes =>
    simp only [Option.bind_eq_bind, Option.bind_eq_some_iff, Option.pure_def,
      Option.some.injEq] at given
    obtain ⟨id, -, role, -, kind, -, all, read, rfl⟩ := given
    exact ⟨volumes, by simp, read⟩
  · cases given

theorem fits_of_ofFields? {fields : List (Option Json)} {g : ResourceGroup}
    (given : ofFields? fields = some g) : ∀ v ∈ g.volumes, v.Fits := by
  obtain ⟨field, -, read⟩ := exists_of_ofFields? given
  exact fits_of_defaulted? read

/-- **A group of machines survives being written.** -/
theorem survives : Survives ofJson? ofJson? toJson := by
  refine .of_eq fun value g given => ?_
  obtain ⟨fields, -, read⟩ := Option.bind_eq_some_iff.mp given
  rw [ofJson?, fields?_toJson, Option.bind_some, ofFields?_toJson (fits_of_ofFields? read)]

end ResourceGroup

namespace Instance

theorem ofJson?_toJson {i : Instance} (fit : ∀ v ∈ i.volumes, v.Fits) :
    ofJson? i.toJson = some i := by
  have fields : fields? fieldNames i.toJson
      = some [some (.text i.id), some (.text i.kind), some i.pricingMode.toJson,
        some i.createdAt.toJson, some (i.terminatedAt.elim .null Instant.toJson),
        some (volumesToJson i.volumes)] :=
    Json.fields?_record rfl (by decide)
  have terminated := asOptional?_elim Instant.ofJson?_toJson Instant.toJson_ne_null i.terminatedAt
  unfold ofJson?
  rw [fields]
  simp only [Option.bind_eq_bind, Json.required?_some, Json.defaulted?_some, Json.asText?_text,
    PricingMode.ofJson?_toJson, Instant.ofJson?_toJson, terminated,
    volumesOfJson?_volumesToJson fit, Option.bind_some, Option.pure_def]

theorem fits_of_ofJson? {value : Json} {i : Instance} (given : ofJson? value = some i) :
    ∀ v ∈ i.volumes, v.Fits := by
  simp only [ofJson?, Option.bind_eq_bind, Option.bind_eq_some_iff] at given
  obtain ⟨fields, -, given⟩ := given
  split at given
  · simp only [Option.bind_eq_some_iff, Option.pure_def, Option.some.injEq] at given
    obtain ⟨id, -, kind, -, mode, -, created, -, terminated, -, volumes, read, rfl⟩ := given
    exact fits_of_defaulted? read
  · cases given

/-- **An instance survives being written.** -/
theorem survives : Survives ofJson? ofJson? toJson :=
  .of_eq fun _ _ given => ofJson?_toJson (fits_of_ofJson? given)

end Instance

namespace ClusterDescriptor

theorem ofJson?_toJson (d : ClusterDescriptor) : ofJson? d.toJson = some d := by
  have fields : fields? fieldNames d.toJson
      = some [some (.text d.id), some (.text d.name), some d.state.toJson, some (.text d.zone),
        some d.createdAt.toJson, some (d.endedAt.elim .null Instant.toJson),
        some (d.runtime.elim .null RuntimeSignals.toJson)] :=
    Json.fields?_record rfl (by decide)
  have ended := asOptional?_elim Instant.ofJson?_toJson Instant.toJson_ne_null d.endedAt
  have runtime := asOptional?_elim RuntimeSignals.ofJson?_toJson (fun _ => nofun) d.runtime
  unfold ofJson?
  rw [fields]
  simp only [Option.bind_eq_bind, Json.required?_some, Json.defaulted?_some, Json.asText?_text,
    ClusterState.ofJson?_toJson, Instant.ofJson?_toJson, ended, runtime, Option.bind_some,
    Option.pure_def]

/-- **The description of a cluster survives being written.** -/
theorem survives : Survives ofJson? ofJson? toJson := .of_eq fun _ d _ => d.ofJson?_toJson

end ClusterDescriptor

namespace GroupInstances

/-- Where a group is read from: fields of the group, among members that are kept, and the field of
the instances. -/
theorem exists_of_ofJson? {depth : Nat} {value : Json} {g : GroupInstances}
    (given : ofJson? depth value = some g) :
    ∃ members fields instances, (∀ member ∈ members, member.2.Kept (Json.maxNesting - depth) = true)
      ∧ Json.selectFields? ResourceGroup.fieldNames members = some fields
      ∧ ResourceGroup.ofFields? fields = some g.group
      ∧ defaulted? [] (asList? Instance.ofJson?) instances = some g.instances := by
  cases value with
  | object members =>
    simp only [ofJson?, Option.bind_eq_bind, Option.bind_eq_some_iff] at given
    obtain ⟨named, -, given⟩ := given
    split at given
    · next kept =>
      simp only [Option.bind_eq_some_iff] at given
      obtain ⟨group, ⟨fields, selected, read⟩, own, -, given⟩ := given
      split at given
      · next instances =>
        simp only [Option.bind_eq_some_iff, Option.pure_def, Option.some.injEq] at given
        obtain ⟨all, listed, rfl⟩ := given
        exact ⟨_, fields, instances, List.all_eq_true.mp kept, selected, read, listed⟩
      · cases given
    · cases given
  | _ => cases given

/-- The members that are written for a group with its instances. -/
def toMembers (g : GroupInstances) : List (String × Json) :=
  g.group.toMembers ++ [(instancesField, .array (g.instances.map Instance.toJson))]

theorem nodup_toMembers (g : GroupInstances) : (g.toMembers.map Prod.fst).Nodup := by
  show (ResourceGroup.fieldNames ++ [instancesField]).Nodup
  decide

/-- **What is written for a group with its instances reads as it**, wherever two more levels of
nesting are left. -/
theorem ofJson?_toJson {g : GroupInstances} {depth : Nat} (room : depth + 2 ≤ Json.maxNesting)
    (fit : ∀ v ∈ g.group.volumes, v.Fits) (finite : ∀ v ∈ g.group.volumes, v.Finite)
    (instances : ∀ i ∈ g.instances, Instance.ofJson? i.toJson = some i) :
    ofJson? depth g.toJson = some g := by
  have members : (Json.object (g.toMembers.map fun member => (some member.1, member.2))).asMembers?
      = some g.toMembers := Json.asMembers?_record g.toMembers
  have others : g.toMembers.filter (fun member => member.1 != instancesField)
      = g.group.toMembers := rfl
  have kept : g.group.toMembers.all (fun member => member.2.Kept (Json.maxNesting - depth)) := by
    have volumes : (volumesToJson g.group.volumes).Kept (Json.maxNesting - depth) = true :=
      kept_volumesToJson (by omega) finite
    simp [ResourceGroup.toMembers, Json.Kept, Json.text, volumes]
  have group : Json.selectFields? ResourceGroup.fieldNames g.group.toMembers
      = some (g.group.toMembers.map fun member => some member.2) := by
    show Json.selectFields? (g.group.toMembers.map Prod.fst) g.group.toMembers = _
    apply Json.selectFields?_eq
    · show ResourceGroup.fieldNames.Nodup
      decide
    · exact fun _ mem => mem
  have fields : ResourceGroup.ofFields? (g.group.toMembers.map fun member => some member.2)
      = some g.group := ResourceGroup.ofFields?_toJson fit
  have own : Json.selectFields? [instancesField] g.toMembers
      = some [some (Json.array (g.instances.map Instance.toJson))] :=
    @Json.selectFields?_eq g.toMembers [(instancesField, .array (g.instances.map Instance.toJson))]
      g.nodup_toMembers fun _ mem => List.mem_append_right _ mem
  show ofJson? depth (.object (g.toMembers.map fun member => (some member.1, member.2))) = some g
  simp only [ofJson?, members, Option.bind_eq_bind, Option.bind_some, others, kept, if_true, group,
    fields, own, Json.defaulted?_some, Json.asList?_map instances, Option.pure_def]

/-- **A group with its instances survives being written**, wherever it is read, and wherever it is
read again with two more levels of nesting left. -/
theorem survives {depth other : Nat} (room : other + 2 ≤ Json.maxNesting) :
    Survives (ofJson? depth) (ofJson? other) toJson := by
  refine .of_eq fun value g given => ?_
  obtain ⟨members, fields, instances, kept, selected, read, listed⟩ := exists_of_ofJson? given
  have finite : ∀ v ∈ g.group.volumes, v.Finite := by
    obtain ⟨field, mem, volumes⟩ := ResourceGroup.exists_of_ofFields? read
    cases field with
    | none =>
      rw [← Option.some.inj volumes]
      exact nofun
    | some field =>
      obtain ⟨member, there, rfl⟩ := Json.exists_of_selectFields? selected mem
      exact finite_of_volumesOfJson? volumes (kept member there)
  apply ofJson?_toJson room (ResourceGroup.fits_of_ofFields? read) finite
  intro i mem
  cases instances with
  | none =>
    rw [← Option.some.inj listed] at mem
    cases mem
  | some field =>
    obtain ⟨elements, -, element, -, given⟩ := Json.exists_of_mem_asList? listed mem
    exact Instance.ofJson?_toJson (Instance.fits_of_ofJson? given)

end GroupInstances

/-- **Inventory records survive being written**: instances, descriptions of clusters, groups of
machines, and groups with their instances, these on their own as within the document of a
recording. -/
theorem records_survive :
    Survives Instance.ofJson? Instance.ofJson? Instance.toJson
      ∧ Survives ClusterDescriptor.ofJson? ClusterDescriptor.ofJson? ClusterDescriptor.toJson
      ∧ Survives ResourceGroup.ofJson? ResourceGroup.ofJson? ResourceGroup.toJson
      ∧ ∀ depth other, other + 2 ≤ Json.maxNesting →
        Survives (GroupInstances.ofJson? depth) (GroupInstances.ofJson? other)
          GroupInstances.toJson :=
  ⟨Instance.survives, ClusterDescriptor.survives, ResourceGroup.survives,
    fun _ _ room => GroupInstances.survives room⟩

end ClusterBilling
