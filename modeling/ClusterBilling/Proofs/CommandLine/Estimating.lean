import Mathlib
import ClusterBilling.CommandLine.Program
import ClusterBilling.Proofs.Files.Resource
import ClusterBilling.Proofs.OrderedMap
import ClusterBilling.Proofs.Service.Fresh
import ClusterBilling.Proofs.Service.Naming
import ClusterBilling.Proofs.Service.Selection

/-!
# Estimating all clusters of a recording

A command line selects clusters, or leaves it at all that are recorded. A selection names none of
them twice (`Selection.nodup_clusters`). What is recorded is taken as it stands, so that **a cluster
that is recorded twice is estimated twice** and counts twice in the totals
(`estimate_recordedTwice`); both times its first record answers for the name.

Where no name is recorded twice, leaving the selection out is the same as selecting all that are
recorded (`estimate_all`): the report is on one estimate for each of them, and on the sum of these.
-/

namespace ClusterBilling

namespace Program

open CommandLine

/-- The same options with some clusters selected by name. -/
def selecting (options : EstimateOptions) (ids : List ClusterId) : EstimateOptions :=
  { options with clusters := some (Selection.text ids) }

/-- **A report on some clusters of a recording**: a service over the recording, which remembers
nothing at first, gave an estimate for each of them, in order, and the report is on these estimates
and the sum of their costs. -/
inductive ReportsOn (settings : Settings) (files : FileTree) (now : Instant)
    (options : EstimateOptions) (recording : InventoryRecording) (clusters : List ClusterId) :
    String → Prop
  | made {window : TimeWindow} {spot : SpotRecording Float}
    {service : CostService InventoryRecording Unit Float} {estimates : List (ClusterEstimate Float)}
    (within : TimeWindow.ofTexts options.since options.stop = .ok window)
    (priced : spotRecording files options.spotPrices = .ok spot)
    (serves : settings.service files (InventoryRecording.inventory id) spot.source
      (fun recording => (now, recording)) window = .ok service)
    (answered : (Asked.each service.estimate clusters (.start recording ())).1 = .ok estimates)
    (named : estimates.map ClusterEstimate.cluster = clusters) :
    ReportsOn settings files now options recording clusters
      (let totals := Breakdown.sum (estimates.map ClusterEstimate.breakdown)
      if options.json then (Report.estimatesJson estimates totals).pretty
      else Report.estimatesText false estimates totals)

section Estimating

variable {settings : Settings} {files : FileTree} {now : Instant} {options : EstimateOptions}
  {recording : InventoryRecording}

/-- Every report is one on the clusters to estimate. -/
theorem reportsOn_of_estimate
    (loaded : Document.load InventoryRecording.ofJson? files options.inventory = .ok recording)
    {report : String} (made : estimate settings files now options = .ok report) :
    ReportsOn settings files now options recording (clustersOf recording options.clusters)
      report := by
  unfold estimate at made
  obtain ⟨window, within, made⟩ := Except.exists_of_bind_eq_ok made
  obtain ⟨recording', loaded', made⟩ := Except.exists_of_bind_eq_ok made
  cases loaded.symm.trans loaded'
  obtain ⟨spot, priced, made⟩ := Except.exists_of_bind_eq_ok made
  obtain ⟨service, serves, made⟩ := Except.exists_of_bind_eq_ok made
  obtain ⟨estimates, answered, made⟩ := Except.exists_of_bind_eq_ok made
  cases made
  have asked : CostService.DescribesAsked service.inventory := by
    obtain ⟨catalog, -, same⟩ := Except.exists_of_bind_eq_ok serves
    cases same
    exact fun _ _ _ _ described => InventoryRecording.id_of_describe (congrArg Prod.fst described)
  exact .made within priced serves answered
    (CostService.cluster_each_estimate asked CostService.namedMemory_empty answered)

/-- Which clusters are estimated is all that a selection decides. -/
theorem estimate_congr_clusters
    (loaded : Document.load InventoryRecording.ofJson? files options.inventory = .ok recording)
    {selection : Option String}
    (same : clustersOf recording selection = clustersOf recording options.clusters) :
    estimate settings files now { options with clusters := selection }
      = estimate settings files now options := by
  unfold estimate
  dsimp only
  rw [loaded]
  simp only [bind, Except.bind, same]

/-- **Estimating all clusters that are recorded.** No selection names a cluster twice. Without one,
the report is on all names as they were recorded; with all of them selected by name, on each of
them once. Both are the same report if no name is recorded twice. -/
theorem estimate_all (settings : Settings) (files : FileTree) (now : Instant)
    (options : EstimateOptions) (recording : InventoryRecording)
    (loaded : Document.load InventoryRecording.ofJson? files options.inventory = .ok recording)
    (all : options.clusters = none) :
    (∀ selection, (clustersOf recording (some selection)).Nodup)
      ∧ (∀ report, estimate settings files now options = .ok report →
        ReportsOn settings files now options recording recording.clusterIds report)
      ∧ ((∀ id ∈ recording.clusterIds, Selection.Nameable id) →
        (∀ report, estimate settings files now (selecting options recording.clusterIds)
            = .ok report →
          ReportsOn settings files now options recording recording.clusterIds.eraseDups report)
        ∧ (recording.clusterIds.Nodup →
          estimate settings files now (selecting options recording.clusterIds)
            = estimate settings files now options)) := by
  have recorded : clustersOf recording options.clusters = recording.clusterIds := by rw [all]; rfl
  refine ⟨Selection.nodup_clusters, fun report made => ?_, fun nameable => ?_⟩
  · rw [← recorded]
    exact reportsOn_of_estimate loaded made
  have selected : clustersOf recording (selecting options recording.clusterIds).clusters
      = recording.clusterIds.eraseDups := by
    show Selection.clusters (Selection.text recording.clusterIds) = _
    exact Selection.clusters_text nameable
  constructor
  · intro report made
    have same : Document.load InventoryRecording.ofJson? files
        (selecting options recording.clusterIds).inventory = .ok recording := loaded
    have reports := reportsOn_of_estimate same made
    rw [selected] at reports
    obtain ⟨within, priced, serves, answered, named⟩ := reports
    exact .made within priced serves answered named
  · intro distinct
    apply estimate_congr_clusters loaded
    exact selected.trans (distinct.eraseDups_eq.trans recorded.symm)

end Estimating

section Sample

/-- Estimates all clusters in a file. -/
def estimatingAll : EstimateOptions := ⟨"w.json", none, none, false, none, none⟩

/-- A tree with a text in that file. -/
def holding (text : String) : FileTree := ⟨.ofList [("w.json", .file (encodeText text))], []⟩

/-- There is nothing but that file. -/
theorem node?_holding (text : String) {name : String} (single : Path.components name = [name])
    (relative : Path.isAbsolute name = false) (inside : FileTree.enter [] name = [name]) :
    (holding text).node? name
      = if name = "w.json" then some (.file (encodeText text)) else none := by
  have place : (holding text).place? name = some [name] := by
    simp only [FileTree.place?, FileTree.origin, relative, single, FileTree.follow,
      FileTree.nodeAt?, inside, holding, List.isEmpty_nil, if_true, Bool.false_eq_true, if_false]
  have key : FileTree.placeKey [name] = name := String.intercalate_singleton
  rw [FileTree.node?, place, Option.bind_some, FileTree.nodeAt?, key]
  simp only [holding, OrderedMap.ofList, OrderedMap.overlay, List.foldl_cons, List.foldl_nil,
    List.isEmpty_cons, Bool.false_eq_true, if_false, OrderedMap.get?_insert, OrderedMap.get?_empty]

/-- What the text in the file says, letter by letter. -/
theorem load_holding {letters : List Char} {recording : InventoryRecording}
    (meant : ((Json.tokens letters).bind (Json.assemble .value [])).bind InventoryRecording.ofJson?
      = some recording) :
    Document.load InventoryRecording.ofJson? (holding (.ofList letters)) "w.json"
      = .ok recording := by
  have plain : (holding (.ofList letters)).exists? (Path.compressed "w.json") = false := by
    rw [FileTree.exists?, node?_holding _ (by decide) (by decide) (by decide),
      if_neg (by decide), Option.isSome_none]
  have held : (holding (.ofList letters)).read? "w.json"
      = some (encodeText (.ofList letters)) := by
    rw [FileTree.read?, node?_holding _ (by decide) (by decide) (by decide), if_pos rfl]
  have read := readResource_plain plain held (decodeText?_encodeText _)
  have parsed : (Json.parse? (.ofList letters)).bind InventoryRecording.ofJson?
      = some recording := by
    rw [Json.parse?, String.toList_ofList]
    exact meant
  unfold Document.load
  rw [read]
  simp only [bind, Except.bind, parsed]
  rfl

/-- A cluster with a machine that ran for half a day. -/
def halfDay : RecordedCluster :=
  ⟨⟨"j-1", "", .terminated, "z", .atHour 1, none, none⟩, false,
    [⟨⟨"ig-1", "CORE", "m5.large", []⟩,
      [⟨"i-1", "m5.large", .onDemand, .atHour 1, some (.atHour 13), []⟩]⟩]⟩

/-- A cluster that never had a machine. -/
def idle : RecordedCluster := ⟨⟨"j-2", "", .terminated, "z", .atHour 1, none, none⟩, false, []⟩

/-- Two clusters, each recorded once. -/
def twoClusters : String :=
  "\x7b\"clusters\": [[[\"j-1\", \"\", \"TERMINATED\", \"z\", \"1970-01-01T01:00:00Z\"], false,
    [\x7b\"id\": \"ig-1\", \"role\": \"CORE\", \"instance_kind\": \"m5.large\", \"instances\":
      [[\"i-1\", \"m5.large\", \"ON_DEMAND\", \"1970-01-01T01:00:00Z\",
        \"1970-01-01T13:00:00Z\"]]\x7d]],
    [[\"j-2\", \"\", \"TERMINATED\", \"z\", \"1970-01-01T01:00:00Z\"]]]\x7d"

/-- One cluster that is recorded twice. -/
def oneTwice : String :=
  "\x7b\"clusters\": [[[\"j-1\", \"\", \"TERMINATED\", \"z\", \"1970-01-01T01:00:00Z\"], false,
    [\x7b\"id\": \"ig-1\", \"role\": \"CORE\", \"instance_kind\": \"m5.large\", \"instances\":
      [[\"i-1\", \"m5.large\", \"ON_DEMAND\", \"1970-01-01T01:00:00Z\",
        \"1970-01-01T13:00:00Z\"]]\x7d]],
    [[\"j-1\", \"\", \"TERMINATED\", \"z\", \"1970-01-01T01:00:00Z\"]]]\x7d"

/-- The names that the samples use. -/
theorem nameable_sample : ∀ id ∈ ["j-1", "j-2"], Selection.Nameable id := by
  intro id mem
  fin_cases mem <;> exact ⟨by decide, by decide, by decide⟩

set_option maxRecDepth 4000 in
theorem estimate_all_twoClusters :
    Document.load InventoryRecording.ofJson? (holding twoClusters) "w.json" = .ok ⟨[halfDay, idle]⟩
      ∧ estimatingAll.clusters = none
      ∧ estimate (.standard "data") (holding twoClusters) (.atHour 14)
          (selecting estimatingAll ["j-1", "j-2"])
        = estimate (.standard "data") (holding twoClusters) (.atHour 14) estimatingAll := by
  have loaded : Document.load InventoryRecording.ofJson? (holding twoClusters) "w.json"
      = .ok ⟨[halfDay, idle]⟩ := by
    unfold twoClusters
    apply load_holding
    decide +kernel
  obtain ⟨-, -, selected⟩ := estimate_all (.standard "data") (holding twoClusters) (.atHour 14)
    estimatingAll ⟨[halfDay, idle]⟩ loaded rfl
  exact ⟨loaded, rfl, (selected nameable_sample).2 (by decide)⟩

/-- What some clusters of a recording cost altogether. -/
def totalOf (files : FileTree) (recording : InventoryRecording) (clusters : List ClusterId) :
    Except Fault Float := do
  let service ← (Settings.standard "data").service files (InventoryRecording.inventory id)
    SpotRecording.empty.source (fun recording => (.atHour 14, recording)) .unbounded
  let estimates ← (Asked.each service.estimate clusters (.start recording ())).1
  return (Breakdown.sum (estimates.map ClusterEstimate.breakdown)).total

/-- A recording of one cluster that stands in it twice. -/
def doubled : InventoryRecording := ⟨[halfDay, { idle with descriptor := halfDay.descriptor }]⟩

set_option maxRecDepth 4000 in
/-- **A cluster that is recorded twice counts twice**, unless it is selected by name. -/
theorem estimate_recordedTwice :
    Document.load InventoryRecording.ofJson? (holding oneTwice) "w.json" = .ok doubled
      ∧ (∀ id ∈ doubled.clusterIds, Selection.Nameable id)
      ∧ clustersOf doubled estimatingAll.clusters = ["j-1", "j-1"]
      ∧ clustersOf doubled (selecting estimatingAll doubled.clusterIds).clusters = ["j-1"]
      ∧ (∃ report, estimate (.standard "data") (holding oneTwice) (.atHour 14) estimatingAll
          = .ok report
        ∧ ReportsOn (.standard "data") (holding oneTwice) (.atHour 14) estimatingAll doubled
          ["j-1", "j-1"] report)
      ∧ totalOf (holding oneTwice) doubled ["j-1", "j-1"] = .ok 0.04656615
      ∧ totalOf (holding oneTwice) doubled ["j-1"] = .ok 0.023283075 := by
  have loaded : Document.load InventoryRecording.ofJson? (holding oneTwice)
      estimatingAll.inventory = .ok doubled := by
    unfold oneTwice
    apply load_holding
    decide +kernel
  have chosen : clustersOf doubled estimatingAll.clusters = ["j-1", "j-1"] := rfl
  have made : (estimate (.standard "data") (holding oneTwice) (.atHour 14) estimatingAll).toBool
      = true := by
    unfold estimate
    rw [loaded]
    decide +kernel
  refine ⟨loaded, ?_, chosen, by decide, ?_, by decide +kernel, by decide +kernel⟩
  · intro id mem
    apply nameable_sample
    revert id
    decide
  · cases reported : estimate (.standard "data") (holding oneTwice) (.atHour 14) estimatingAll with
    | error fault =>
      rw [reported] at made
      cases made
    | ok report =>
      have reports := reportsOn_of_estimate loaded reported
      rw [chosen] at reports
      exact ⟨report, rfl, reports⟩

end Sample

end Program

end ClusterBilling
