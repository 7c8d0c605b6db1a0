import Mathlib
import ClusterBilling.PriceList.Download

/-!
# What a download asks for

A download is a conversation with a server. `Asks` says which requests it consists of, with the
answer to each, and `Server.noting` is the server that also keeps a list of the addresses it is
asked for: it answers like the server itself (`run_noting`), and its list has the addresses of the
conversation (`Asks.of_noting`).

The indexes come first: that of all price lists, then that of each price list which a platform
needs. `Indexing` says how far this goes: to the end, or to the first request that fails
(`asks_regionIndexes`).
-/

namespace ClusterBilling

variable {σ β γ : Type}

/-- The server that also notes the addresses it is asked for, in order. -/
def Server.noting (server : Server σ) : Server (σ × List String) := fun address s =>
  ((server address s.1).1, (server address s.1).2, s.2 ++ [address])

namespace Download

/-- A request for a document, and the body that came back or why none did. -/
structure Request where
  address : String
  answer : Except Fault (List UInt8)

/-- What the answer to a request says as an index. -/
def Request.index (request : Request) (member field : String) :
    Except Fault (OrderedMap String String) :=
  request.answer.bind (readIndex request.address member field)

/-! ## Conversations -/

/-- **A conversation with a server**: requests put one after the other, with their answers. -/
inductive Asks (server : Server σ) : σ → List Request → σ → Prop
  | none (s : σ) : Asks server s [] s
  | next {s s' s'' : σ} {request : Request} {rest : List Request}
    (answered : get server request.address s = (request.answer, s'))
    (others : Asks server s' rest s'') : Asks server s (request :: rest) s''

namespace Asks

variable {server : Server σ} {s s' s'' : σ} {first second : List Request}

theorem one {request : Request} (answered : get server request.address s = (request.answer, s')) :
    Asks server s [request] s' := .next answered (.none s')

theorem append (before : Asks server s first s') (after : Asks server s' second s'') :
    Asks server s (first ++ second) s'' := by
  induction before with
  | none => exact after
  | next answered _ ih => exact .next answered (ih after)

end Asks

/-- A question to a server that notes what it is asked is the question to the server. -/
def Noted (ask : Asked σ β) (noted : Asked (σ × List String) β) : Prop :=
  ∀ s log, ∃ log', noted (s, log) = ((ask s).1, (ask s).2, log')

namespace Noted

theorem andThen {first : Asked σ β} {notedFirst : Asked (σ × List String) β}
    {next : β → Asked σ γ} {notedNext : β → Asked (σ × List String) γ}
    (before : Noted first notedFirst) (after : ∀ b, Noted (next b) (notedNext b)) :
    Noted (first.andThen next) (notedFirst.andThen notedNext) := by
  intro s log
  obtain ⟨log', same⟩ := before s log
  unfold Asked.andThen
  rw [same]
  obtain ⟨answer, s'⟩ := first s
  cases answer with
  | error fault => exact ⟨log', rfl⟩
  | ok b => exact after b s' log'

theorem answer (b : β) : Noted (σ := σ) (.answer b) (.answer b) := fun _ log => ⟨log, rfl⟩

theorem check {ask : Asked σ β} {noted : Asked (σ × List String) β} (same : Noted ask noted)
    (look : β → Except Fault γ) : Noted (ask.check look) (noted.check look) :=
  same.andThen fun _ _ log => ⟨log, rfl⟩

theorem each {ask : β → Asked σ γ} {noted : β → Asked (σ × List String) γ}
    (same : ∀ b, Noted (ask b) (noted b)) (bs : List β) :
    Noted (.each ask bs) (.each noted bs) := by
  induction bs with
  | nil => exact answer []
  | cons b rest ih => exact (same b).andThen fun _ => ih.andThen fun _ => answer _

end Noted

/-- An outcome with what the server has noted. -/
def Outcome.noting (outcome : Outcome σ) (log : List String) : Outcome (σ × List String) :=
  ⟨outcome.written, outcome.files, outcome.server, log⟩

section Noting

variable (server : Server σ)

theorem get_noting (address : String) (s : σ) (log : List String) :
    get server.noting address (s, log)
      = ((get server address s).1, (get server address s).2, log ++ [address]) := by
  simp only [get, Asked.check, Asked.andThen, Server.noting]
  obtain ⟨answer, s'⟩ := server address s
  cases answer <;> rfl

theorem noted_getIndex (address member field : String) :
    Noted (getIndex server address member field) (getIndex server.noting address member field) :=
  Noted.check (fun s log => ⟨_, get_noting server address s log⟩) _

theorem noted_indexes (base : String) (platform : Platform) :
    Noted (indexes server base platform) (indexes server.noting base platform) := by
  apply Noted.andThen (noted_getIndex server _ _ _)
  intro offers
  apply Noted.each
  intro kind
  unfold regionIndex
  cases offers.get? kind.code with
  | none => exact fun _ log => ⟨log, rfl⟩
  | some address => exact Noted.andThen (noted_getIndex server _ _ _) fun _ => Noted.answer _

theorem items_noting (base : String) (files : FileTree) (s : σ) (log : List String)
    (wanted : List Item) :
    ∃ log', items server.noting base files (s, log) wanted
      = (items server base files s wanted).noting log' := by
  induction wanted generalizing files s log with
  | nil => exact ⟨log, rfl⟩
  | cons item rest ih =>
    simp only [items, get_noting]
    obtain ⟨answer, s'⟩ := get server (base ++ item.address) s
    cases answer with
    | error fault => exact ⟨_, rfl⟩
    | ok body =>
      dsimp only
      cases files.write? item.path (Gzip.pack body) with
      | none => exact ⟨_, rfl⟩
      | some files =>
        obtain ⟨log', same⟩ := ih files s' (log ++ [base ++ item.address])
        dsimp only
        exact ⟨log', by rw [same]; rfl⟩

/-- **Noting changes nothing** about a download. -/
theorem run_noting (address resources : String) (platform : Platform) (regions : List Region)
    (files : FileTree) (s : σ) (log : List String) :
    ∃ log', run server.noting address resources platform regions files (s, log)
      = (run server address resources platform regions files s).noting log' := by
  obtain ⟨log', same⟩ := noted_indexes server (baseAddress address) platform s log
  simp only [run, same]
  obtain ⟨answer, s'⟩ := indexes server (baseAddress address) platform s
  cases answer with
  | error fault => exact ⟨log', rfl⟩
  | ok found => exact items_noting server _ files s' log' _

variable {server}

/-- The addresses noted are those of the conversation. -/
theorem Asks.of_noting {s s' : σ × List String} {requests : List Request}
    (asks : Asks server.noting s requests s') :
    Asks server s.1 requests s'.1 ∧ s'.2 = s.2 ++ requests.map (·.address) := by
  induction asks with
  | none s => exact ⟨.none s.1, (List.append_nil _).symm⟩
  | @next s s' s'' request rest answered _ ih =>
    rw [get_noting] at answered
    obtain ⟨answer, rest⟩ := Prod.mk.inj answered
    subst rest
    exact ⟨.next (Prod.ext answer rfl) ih.1, by rw [ih.2, List.append_assoc]; rfl⟩

end Noting

/-! ## Indexes -/

/-- **The requests for the region indexes** of some price lists, in order, and what comes of them:
all the indexes, or the fault of the first one that the index of price lists does not name or whose
request fails, behind which nothing is asked. -/
inductive Indexing (base : String) (offers : OrderedMap String String) :
    List OfferKind → List Request → Except Fault (List RegionIndex) → Prop
  | done : Indexing base offers [] [] (.ok [])
  | unnamed {kind : OfferKind} {later : List OfferKind}
    (unnamed : offers.get? kind.code = none) :
    Indexing base offers (kind :: later) []
      (.error (.config ("offer index has no " ++ kind.code ++ " entry")))
  | refused {kind : OfferKind} {later : List OfferKind} {request : Request} {address : String}
    {fault : Fault} (named : offers.get? kind.code = some address)
    (asked : request.address = base ++ address)
    (refused : request.index "regions" "currentVersionUrl" = .error fault) :
    Indexing base offers (kind :: later) [request] (.error fault)
  | next {kind : OfferKind} {later : List OfferKind} {request : Request} {rest : List Request}
    {address : String} {addresses : OrderedMap Region String}
    {outcome : Except Fault (List RegionIndex)} (named : offers.get? kind.code = some address)
    (asked : request.address = base ++ address)
    (read : request.index "regions" "currentVersionUrl" = .ok addresses)
    (others : Indexing base offers later rest outcome) :
    Indexing base offers (kind :: later) (request :: rest)
      (outcome.map (⟨kind, addresses⟩ :: ·))

/-- The indexes are those of the price lists asked for, in order. -/
theorem Indexing.kinds {base : String} {offers : OrderedMap String String}
    {kinds : List OfferKind} {requests : List Request} {indexes : List RegionIndex}
    (indexing : Indexing base offers kinds requests (.ok indexes)) :
    indexes.map (·.kind) = kinds := by
  generalize result : Except.ok indexes = outcome at indexing
  induction indexing generalizing indexes with
  | done =>
    cases result
    rfl
  | unnamed | refused => cases result
  | @next kind later request rest address addresses outcome named asked read others ih =>
    cases outcome with
    | error fault => cases result
    | ok found =>
      cases result
      rw [List.map_cons, ih rfl]

variable (server : Server σ)

theorem asks_getIndex (address member field : String) (s : σ) :
    ∃ request : Request, request.address = address
      ∧ request.index member field = (getIndex server address member field s).1
      ∧ Asks server s [request] (getIndex server address member field s).2 := by
  refine ⟨⟨address, (get server address s).1⟩, rfl, ?_, .one ?_⟩
  all_goals
    unfold getIndex Asked.check Asked.andThen
    generalize get server address s = answered
    obtain ⟨answer, s'⟩ := answered
    cases answer <;> rfl

/-- **Asking for region indexes.** -/
theorem asks_regionIndexes (base : String) (offers : OrderedMap String String)
    (kinds : List OfferKind) (s : σ) :
    ∃ requests,
      Asks server s requests (Asked.each (regionIndex server base offers) kinds s).2
        ∧ Indexing base offers kinds requests
          (Asked.each (regionIndex server base offers) kinds s).1 := by
  induction kinds generalizing s with
  | nil => exact ⟨[], .none s, .done⟩
  | cons kind later ih =>
    cases named : offers.get? kind.code with
    | none =>
      simp only [Asked.each, regionIndex, named, Asked.andThen]
      exact ⟨[], .none s, .unnamed named⟩
    | some address =>
      obtain ⟨request, asked, read, asks⟩ :=
        asks_getIndex server (base ++ address) "regions" "currentVersionUrl" s
      simp only [Asked.each, regionIndex, named, Asked.andThen]
      generalize getIndex server (base ++ address) "regions" "currentVersionUrl" s = answered
        at read asks ⊢
      obtain ⟨answer, s'⟩ := answered
      cases answer with
      | error fault => exact ⟨[request], asks, .refused named asked read⟩
      | ok addresses =>
        obtain ⟨rest, others, indexing⟩ := ih s'
        have whole := Indexing.next named asked read indexing
        dsimp only [Asked.answer]
        generalize Asked.each (regionIndex server base offers) later s' = went at others whole ⊢
        obtain ⟨outcome, s''⟩ := went
        refine ⟨request :: rest, ?_, ?_⟩
        · cases outcome <;> exact asks.append others
        · cases outcome <;> exact whole

end Download

end ClusterBilling
