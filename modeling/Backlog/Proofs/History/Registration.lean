import Backlog.History.Registry
import Backlog.Proofs.Keyed

/-!
# Who goes by a name

A registry serves requests one after the other.  `Registry.transcript` is what was asked and
answered, and what a registry holds can be read off it: the backends that were registered and
not taken since, in the order in which they were registered.  A backend that was refused is
none of them, and so is never handed out.
-/

namespace Backlog

namespace Registry

variable {β : Type}

/-! ## Requests -/

/-- What can be asked of a registry. -/
inductive Request (β : Type) where
  | register (backend : Backend β)
  | get (name : String)
  | take (name : String)

/-- What the registry says to it. -/
inductive Answer (β : Type) where
  | registered (answer : Except Error Unit)
  | got (backend : Option (Backend β))
  | taken (answer : Except Error (Backend β))

/-- Serves a request. -/
def serve (r : Registry β) : Request β → Registry β × Answer β
  | .register backend =>
    let done := r.register backend
    (done.state, .registered done.answer)
  | .get name => (r, .got (r.get? name))
  | .take name =>
    let done := r.take name
    (done.state, .taken done.answer)

/-- The registry after requests were served in order. -/
def after (r : Registry β) (requests : List (Request β)) : Registry β :=
  requests.foldl (fun r request => (r.serve request).1) r

/-- Requests that are served in order, each with its answer. -/
def transcript (r : Registry β) : List (Request β) → List (Request β × Answer β)
  | [] => []
  | request :: rest => (request, (r.serve request).2) :: (r.serve request).1.transcript rest

/-! ## What a transcript tells -/

/-- The backend that was registered, if it was not refused. -/
def registered? : Request β × Answer β → Option (Backend β)
  | (.register backend, .registered (.ok ())) => some backend
  | _ => none

/-- Whether the backend of a name was handed out. -/
def handsOut (name : String) : Request β × Answer β → Bool
  | (.take taken, .taken (.ok _)) => taken = name
  | _ => false

/-- The backends that were registered and not taken since, in the order of their registration. -/
def standing : List (Request β × Answer β) → List (Backend β)
  | [] => []
  | entry :: rest =>
    (registered? entry).toList.filter (fun backend => !rest.any (handsOut backend.name)) ++
      standing rest

/-- The backend that was registered last under a name. -/
def lastRegistered? (name : String) (history : List (Request β × Answer β)) : Option (Backend β) :=
  ((history.filterMap registered?).filter (·.name = name)).getLast?

/-! ## Looking up -/

theorem get?_eq_none_iff {r : Registry β} {name : String} : r.get? name = none ↔ name ∉ r.names := by
  simp [get?, names]

theorem name_of_get? {r : Registry β} {name : String} {backend : Backend β}
    (found : r.get? name = some backend) : backend.name = name := by
  simpa using List.find?_some found

theorem mem_of_get? {r : Registry β} {name : String} {backend : Backend β}
    (found : r.get? name = some backend) : backend ∈ r.backends :=
  List.mem_of_find?_eq_some found

theorem get?_of_mem {r : Registry β} (distinct : r.names.Nodup) {name : String} {backend : Backend β}
    (member : backend ∈ r.backends) (named : backend.name = name) : r.get? name = some backend :=
  (find?_key_eq_some_iff distinct).mpr ⟨member, named⟩

theorem exists_get? {r : Registry β} {name : String} (known : name ∈ r.names) :
    ∃ backend, r.get? name = some backend := by
  rw [← Option.isSome_iff_exists, Option.isSome_iff_ne_none]
  exact fun none => get?_eq_none_iff.mp none known

/-! ## One request -/

theorem register_of_free {r : Registry β} {backend : Backend β} (free : backend.name ∉ r.names) :
    r.register backend = ⟨⟨r.backends ++ [backend]⟩, .ok (), [.backendRegistered backend.name]⟩ := by
  rw [register, get?_eq_none_iff.mpr free]

theorem register_of_known {r : Registry β} {backend : Backend β} (known : backend.name ∈ r.names) :
    r.register backend = ⟨r, .error (.invalidArgument (.duplicateBackend backend.name)), []⟩ := by
  obtain ⟨holder, found⟩ := exists_get? known
  rw [register, found]

theorem take_of_unknown {r : Registry β} {name : String} (unknown : name ∉ r.names) :
    r.take name = ⟨r, .error (.notFound (.backend name)), []⟩ := by
  rw [take, get?_eq_none_iff.mpr unknown]

theorem take_of_get? {r : Registry β} (distinct : r.names.Nodup) {name : String} {backend : Backend β}
    (found : r.get? name = some backend) :
    r.take name = ⟨⟨r.backends.filter (·.name ≠ name)⟩, .ok backend, []⟩ := by
  rw [take, found, eraseP_key_eq_filter distinct]

/-- The ways in which a request is served, each with the backends that it leaves. -/
inductive Serves (r : Registry β) : Request β → List (Backend β) × Answer β → Prop where
  | registers (backend : Backend β) (free : backend.name ∉ r.names) :
    Serves r (.register backend) (r.backends ++ [backend], .registered (.ok ()))
  | refuses (backend : Backend β) (known : backend.name ∈ r.names) :
    Serves r (.register backend)
      (r.backends, .registered (.error (.invalidArgument (.duplicateBackend backend.name))))
  | shows (name : String) : Serves r (.get name) (r.backends, .got (r.get? name))
  | handsOut (name : String) (backend : Backend β) (found : r.get? name = some backend) :
    Serves r (.take name) (r.backends.filter (·.name ≠ name), .taken (.ok backend))
  | misses (name : String) (unknown : name ∉ r.names) :
    Serves r (.take name) (r.backends, .taken (.error (.notFound (.backend name))))

theorem serves {r : Registry β} (distinct : r.names.Nodup) (request : Request β) :
    Serves r request ((r.serve request).1.backends, (r.serve request).2) := by
  cases request with
  | register backend =>
    by_cases known : backend.name ∈ r.names
    · simp only [serve, register_of_known known]
      exact .refuses backend known
    · simp only [serve, register_of_free known]
      exact .registers backend known
  | get name => exact .shows name
  | take name =>
    by_cases known : name ∈ r.names
    · obtain ⟨backend, found⟩ := exists_get? known
      simp only [serve, take_of_get? distinct found]
      exact .handsOut name backend found
    · simp only [serve, take_of_unknown known]
      exact .misses name known

/-! ## Distinct names -/

theorem distinct_serve {r : Registry β} (distinct : r.names.Nodup) (request : Request β) :
    (r.serve request).1.names.Nodup := by
  have served := serves distinct request
  unfold names at distinct ⊢
  -- the cases want what is left and said as variables
  generalize (r.serve request).1.backends = left at served ⊢
  generalize (r.serve request).2 = answer at served
  cases served with
  | registers backend free =>
    rw [List.map_append, List.nodup_append]
    refine ⟨distinct, by simp, ?_⟩
    simp only [List.map_cons, List.map_nil, List.mem_singleton]
    rintro name member _ rfl rfl
    exact free member
  | handsOut name backend found => exact distinct.sublist (List.filter_sublist.map _)
  | refuses | shows | misses => exact distinct

theorem distinct_after {r : Registry β} (distinct : r.names.Nodup) (requests : List (Request β)) :
    (r.after requests).names.Nodup := by
  induction requests generalizing r with
  | nil => exact distinct
  | cons request rest ih => exact ih (distinct_serve distinct request)

/-! ## Runs -/

/-- Of the backends at hand those are left that nobody takes, and the ones that are registered and
    not taken stand behind them. -/
theorem backends_after {r : Registry β} (distinct : r.names.Nodup) (requests : List (Request β)) :
    (r.after requests).backends =
      r.backends.filter (fun backend => !(r.transcript requests).any (handsOut backend.name)) ++
        standing (r.transcript requests) := by
  induction requests generalizing r with
  | nil => simp [after, transcript, standing]
  | cons request rest ih =>
    have later := ih (distinct_serve distinct request)
    have served := serves distinct request
    simp only [transcript, standing, List.any_cons]
    change ((r.serve request).1.after rest).backends = _
    rw [later]
    generalize (r.serve request).1.transcript rest = history
    generalize (r.serve request).1.backends = left at served ⊢
    generalize (r.serve request).2 = answer at served ⊢
    cases served with
    | registers backend free => simp [registered?, handsOut]
    | handsOut name backend found =>
      -- who was taken now or is later has left
      simp only [registered?, handsOut, Option.toList_none, List.filter_nil, List.nil_append,
        List.filter_filter]
      congr 1
      apply List.filter_congr
      intro b _
      simp [Bool.and_comm, eq_comm]
    | refuses | shows | misses => simp [registered?, handsOut]

theorem lastRegistered?_cons (name : String) (entry : Request β × Answer β)
    (rest : List (Request β × Answer β)) :
    lastRegistered? name (entry :: rest) =
      (lastRegistered? name rest).or (lastRegistered? name [entry]) := by
  rw [← List.singleton_append]
  simp only [lastRegistered?, List.filterMap_append, List.filter_append, List.getLast?_append]

/-- What is found under a name after a request was registered by it, or was there before. -/
theorem get?_serve {r : Registry β} (distinct : r.names.Nodup) (request : Request β) {name : String}
    {backend : Backend β} (found : (r.serve request).1.get? name = some backend) :
    (lastRegistered? name [(request, (r.serve request).2)]).or (r.get? name) = some backend := by
  have named := name_of_get? found
  have held := mem_of_get? found
  have served := serves distinct request
  generalize (r.serve request).1.backends = left at served held
  generalize (r.serve request).2 = answer at served ⊢
  cases served with
  | registers new free =>
    rcases List.mem_append.mp held with old | last
    · have other : new.name ≠ name := by
        rintro rfl
        exact free (named ▸ List.mem_map_of_mem old)
      simp [lastRegistered?, registered?, other, get?_of_mem distinct old named]
    · obtain rfl := List.mem_singleton.mp last
      simp [lastRegistered?, registered?, named]
  | handsOut taken other _ =>
    exact get?_of_mem distinct (List.mem_of_mem_filter held) named
  | refuses | shows | misses => exact get?_of_mem distinct held named

/-- What is found under a name was registered last under it, or was there at first. -/
theorem get?_after {r : Registry β} (distinct : r.names.Nodup) (requests : List (Request β))
    {name : String} {backend : Backend β} (found : (r.after requests).get? name = some backend) :
    (lastRegistered? name (r.transcript requests)).or (r.get? name) = some backend := by
  induction requests generalizing r with
  | nil => exact found
  | cons request rest ih =>
    have next := distinct_serve distinct request
    have later := ih next found
    rw [transcript, lastRegistered?_cons, Option.or_assoc]
    -- only where no later request registers the name does this one matter
    cases last : lastRegistered? name ((r.serve request).1.transcript rest) with
    | some b =>
      rw [last] at later
      exact later
    | none =>
      rw [last, Option.none_or] at later
      rw [Option.none_or]
      exact get?_serve distinct request later

/-- In every registry that requests can reach names are distinct, and the backends are those that
    were registered and not taken since, in the order of their registration.  A backend is
    registered exactly if its name is free, and one is taken exactly if it is there; what is refused
    leaves the registry as it was.  Who is found under a name, and handed out for it, was registered
    last under that name.  It leaves all others in their order, and its name is free again. -/
theorem holds_last_registered (requests : List (Request β)) :
    let r := (empty : Registry β).after requests
    let history := (empty : Registry β).transcript requests
    r.names.Nodup ∧ r.backends = standing history ∧
      (∀ backend,
        ((r.register backend).answer = .ok () ↔ backend.name ∉ r.names) ∧
          (backend.name ∉ r.names → (r.register backend).state.backends = r.backends ++ [backend]) ∧
          (backend.name ∈ r.names →
            (r.register backend).answer =
                .error (.invalidArgument (.duplicateBackend backend.name)) ∧
              (r.register backend).state = r)) ∧
      ∀ name,
        (r.get? name = none ↔ name ∉ r.names) ∧
          ((∃ backend, (r.take name).answer = .ok backend) ↔ name ∈ r.names) ∧
          (name ∉ r.names →
            (r.take name).answer = .error (.notFound (.backend name)) ∧ (r.take name).state = r) ∧
          ∀ backend, r.get? name = some backend →
            lastRegistered? name history = some backend ∧ (r.take name).answer = .ok backend ∧
              (r.take name).state.backends = r.backends.filter (·.name ≠ name) ∧
              name ∉ (r.take name).state.names := by
  intro r history
  have none : (empty : Registry β).names.Nodup := List.nodup_nil
  have distinct : r.names.Nodup := distinct_after none requests
  refine ⟨distinct, ?_, ?_, ?_⟩
  · exact backends_after none requests
  · intro backend
    by_cases known : backend.name ∈ r.names
    · simp [register_of_known known, known]
    · simp [register_of_free known, known]
  · intro name
    refine ⟨get?_eq_none_iff, ?_, ?_, ?_⟩
    · by_cases known : name ∈ r.names
      · obtain ⟨backend, found⟩ := exists_get? known
        simp [take_of_get? distinct found, known]
      · simp [take_of_unknown known, known]
    · intro unknown
      rw [take_of_unknown unknown]
      exact ⟨rfl, rfl⟩
    · intro backend found
      have last : lastRegistered? name history = some backend := by
        rw [← get?_after none requests found]
        exact Option.or_none.symm
      rw [take_of_get? distinct found]
      refine ⟨last, rfl, rfl, ?_⟩
      simp [names]

/-- The second of three backends of a name is refused, and the third has the name after the first was
    taken. -/
theorem holds_last_registered_third :
    let requests : List (Request Nat) :=
      [.register ⟨"mem", 1⟩, .register ⟨"file", 7⟩, .register ⟨"mem", 2⟩, .take "mem",
        .register ⟨"mem", 3⟩]
    let r := (empty : Registry Nat).after requests
    r.get? "mem" = some ⟨"mem", 3⟩ ∧ r.names = ["file", "mem"] ∧
      (lastRegistered? "mem" ((empty : Registry Nat).transcript requests)) = some ⟨"mem", 3⟩ ∧
      (r.take "mem").answer = .ok ⟨"mem", 3⟩ ∧
      (r.register ⟨"file", 8⟩).answer = .error (.invalidArgument (.duplicateBackend "file")) ∧
      (r.register ⟨"file", 8⟩).state = r ∧
      (r.take "redis").answer = .error (.notFound (.backend "redis")) := by
  intro requests r
  have found : r.get? "mem" = some ⟨"mem", 3⟩ := rfl
  have names : r.names = ["file", "mem"] := rfl
  obtain ⟨-, -, registering, looking⟩ := holds_last_registered requests
  obtain ⟨-, -, held⟩ := registering ⟨"file", 8⟩
  obtain ⟨refused, same⟩ := held (names ▸ List.mem_cons_self)
  obtain ⟨-, -, -, taking⟩ := looking "mem"
  obtain ⟨last, taken, -, -⟩ := taking ⟨"mem", 3⟩ found
  obtain ⟨-, -, absent, -⟩ := looking "redis"
  obtain ⟨missing, -⟩ := absent (by rw [names]; decide)
  exact ⟨found, names, last, taken, refused, same, missing⟩

end Registry

end Backlog
