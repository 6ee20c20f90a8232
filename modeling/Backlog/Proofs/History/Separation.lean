import Backlog.Proofs.History.Effects

/-!
# Targets do not interfere

Two archives agree on a target when they have the same log for it, the same clock and the
same server.  Requests that both serve keep that so, and so does a request to one of them
that names another target, however the logs lie in their tables.  So what becomes of a
target, and what requests for it are answered, is as if nobody asked for any other.
-/

namespace Backlog

namespace Archive

/-- Requests that are served in order, each with its answer. -/
def transcript (a : Archive) : List Request → List (Request × Answer)
  | [] => []
  | request :: rest => (request, (a.serve request).2) :: (a.serve request).1.transcript rest

/-- What two archives share that agree on a target. -/
structure Agree (target : String) (a b : Archive) : Prop where
  left : a.store.index.Proper
  right : b.store.index.Proper
  now : a.now = b.now
  server : a.store.server = b.store.server
  log : a.store.directory.lookup target.toLower = b.store.directory.lookup target.toLower

variable {a b : Archive} {target : String}

/-! ## Steps -/

theorem Agree.get? (agree : Agree target a b) {name : String} (own : name.toLower = target.toLower) :
    a.store.get? name = b.store.get? name := by
  rw [Store.get?_eq_lookup agree.left, Store.get?_eq_lookup agree.right, own, agree.log]

theorem Agree.serve (agree : Agree target a b) (request : Request) :
    Agree target (a.serve request).1 (b.serve request).1 := by
  obtain ⟨left, effect⟩ := serve_effect agree.left request
  obtain ⟨right, effect'⟩ := serve_effect agree.right request
  refine ⟨left, right, ?_, ?_, ?_⟩
  · cases request with
    | turn now => rfl
    | addLine | trim | trimAll | destroy | replay => exact agree.now
  · rw [server_serve, server_serve, agree.server]
  · rw [effect, effect', agree.now]
    exact Request.lookup_effect_congr agree.log request b.now

/-- One of the two may serve a request that names another target. -/
theorem Agree.serve_other (agree : Agree target a b) {request : Request}
    (other : request.concerns target = false) : Agree target (a.serve request).1 b := by
  obtain ⟨left, effect⟩ := serve_effect agree.left request
  refine ⟨left, agree.right, ?_, ?_, ?_⟩
  · cases request with
    | turn now => cases other
    | addLine | trim | trimAll | destroy | replay => exact agree.now
  · rw [server_serve, agree.server]
  · rw [effect, Request.lookup_effect_of_other other, agree.log]

theorem Agree.answer (agree : Agree target a b) {request : Request}
    (names : request.names target = true) : (a.serve request).2 = (b.serve request).2 := by
  cases request with
  | addLine name tags text => rfl
  | trim name most age =>
    have own : name.toLower = target.toLower := by simpa [Request.names, Request.target?] using names
    simp only [Archive.serve, Store.answer_trim, agree.get? own]
  | trimAll most age => cases names
  | destroy name =>
    have own : name.toLower = target.toLower := by simpa [Request.names, Request.target?] using names
    simp only [Archive.serve, Store.answer_destroy agree.left, Store.answer_destroy agree.right,
      agree.get? own]
  | replay id recipient name filter =>
    have own : name.toLower = target.toLower := by simpa [Request.names, Request.target?] using names
    simp only [Archive.serve, Store.replay, agree.get? own, agree.now, agree.server]
    split
    · rfl
    · split <;> rfl
  | turn now => cases names

/-! ## Runs -/

theorem Request.concerns_of_names {request : Request} (own : request.names target = true) :
    request.concerns target = true := by
  unfold Request.names at own
  unfold Request.concerns
  cases named : request.target? with
  | none => rfl
  | some name => simpa [named] using own

theorem Agree.after (agree : Agree target a b) (requests : List Request) :
    Agree target (a.after requests) (b.after (requests.filter (·.concerns target))) ∧
      (a.transcript requests).filter (·.1.names target) =
        (b.transcript (requests.filter (·.concerns target))).filter (·.1.names target) := by
  induction requests generalizing a b with
  | nil => exact ⟨agree, rfl⟩
  | cons request rest ih =>
    by_cases concerns : request.concerns target = true
    · -- both serve the request
      obtain ⟨last, same⟩ := ih (agree.serve request)
      rw [List.filter_cons_of_pos concerns]
      refine ⟨last, ?_⟩
      by_cases names : request.names target = true
      · simp only [transcript, List.filter_cons, names, if_true, agree.answer names, same]
      · simp only [transcript, List.filter_cons, names, Bool.false_eq_true, if_false, same]
    · -- the first one alone serves it
      have names : ¬ request.names target = true := mt Request.concerns_of_names concerns
      obtain ⟨last, same⟩ := ih (agree.serve_other (by simpa using concerns))
      rw [List.filter_cons_of_neg concerns]
      refine ⟨last, ?_⟩
      simp only [transcript, List.filter_cons, names, Bool.false_eq_true, if_false, same]

/-! ## Targets without a log -/

theorem addLine_of_made (proper : a.store.index.Proper) (absent : a.store.get? target = none)
    {request : Request} (made : ((a.serve request).1.store.get? target).isSome) :
    ∃ name tags text, request = .addLine name tags text ∧ name.toLower = target.toLower := by
  obtain ⟨proper', effect⟩ := serve_effect proper request
  rw [Store.get?_eq_lookup proper', effect] at made
  rw [Store.get?_eq_lookup proper] at absent
  cases request with
  | addLine name tags text =>
    refine ⟨name, tags, text, rfl, ?_⟩
    by_contra differs
    simp only [Request.effect, Directory.lookup_update, Directory.lookup_ensure,
      if_neg (Ne.symm differs), absent] at made
    cases made
  | trim name most age =>
    simp [Request.effect, Directory.lookup_update, absent] at made
  | trimAll most age =>
    simp [Request.effect, Directory.lookup_map, absent] at made
  | destroy name =>
    simp [Request.effect, Directory.lookup_remove, absent] at made
  | replay id recipient name filter =>
    simp [Request.effect, absent] at made
  | turn now =>
    simp [Request.effect, absent] at made

/-- Whatever requests are served, the log of a target and the answers to the requests that
    name it are those of the run without the requests that name other targets, also where
    the other run has another hash and number of buckets.  The same goes for what can be
    asked of the target afterwards.  A target gets a log only by a line that is added, and
    as long as it has none, all else for it changes nothing and finds nothing. -/
theorem targets_are_separate (hash hash' : List UInt8 → Nat) (server : String)
    (buckets buckets' : Nat) (first : Instant) (requests : List Request) (target : String) :
    let whole := start hash server buckets first
    let alone := start hash' server buckets' first
    let own := requests.filter (·.concerns target)
    let a := whole.after requests
    let b := alone.after own
    (whole.transcript requests).filter (·.1.names target) =
        (alone.transcript own).filter (·.1.names target) ∧
      (∀ name, name.toLower = target.toLower →
        a.store.get? name = b.store.get? name ∧
          a.store.lineCount name = b.store.lineCount name ∧
          a.store.oldest? name = b.store.oldest? name ∧
          ∀ now id recipient filter, (a.store.replay now id recipient name filter).answer =
            (b.store.replay now id recipient name filter).answer) ∧
      (∀ request, a.store.get? target = none → ((a.serve request).1.store.get? target).isSome →
        ∃ name tags text, request = .addLine name tags text ∧ name.toLower = target.toLower) ∧
      (a.store.get? target = none →
        a.store.destroy target = ⟨a.store, false, []⟩ ∧
          a.store.lineCount target = 0 ∧ a.store.oldest? target = none ∧
          ∀ now, (∀ most age, a.store.trim now target most age = ⟨a.store, false, []⟩) ∧
            ∀ id recipient filter,
              a.store.replay now id recipient target filter = ⟨a.store, (0, []), []⟩) := by
  intro whole alone own a b
  -- without logs the two agree, and from then on only what concerns the target is compared
  have agree : Agree target whole alone :=
    ⟨proper_start hash server buckets first, proper_start hash' server buckets' first, rfl, rfl, by
      simp [whole, alone, start, Store.empty, Store.directory, TargetIndex.directory_empty]⟩
  obtain ⟨last, answers⟩ := agree.after requests
  refine ⟨answers, ?_, ?_, ?_⟩
  · intro name named
    have same : a.store.get? name = b.store.get? name := last.get? named
    have server : a.store.server = b.store.server := last.server
    refine ⟨same, ?_, ?_, ?_⟩
    · rw [Store.lineCount, Store.lineCount, same]
    · rw [Store.oldest?, Store.oldest?, same]
    · intro now id recipient filter
      simp only [Store.replay, same, server]
      split
      · rfl
      · split <;> rfl
  · intro request absent made
    exact addLine_of_made last.left absent made
  · intro absent
    refine ⟨Store.destroy_absent absent, ?_, ?_, ?_⟩
    · rw [Store.lineCount, absent]
      rfl
    · rw [Store.oldest?, absent]
      rfl
    · intro now
      simp only [Store.trim, Store.replay, absent]
      exact ⟨fun _ _ => trivial, fun _ _ _ => trivial⟩

/-- A target that shares the only chain with another one, is destroyed while that one has
    a line, and is made again. -/
theorem targets_are_separate_recreated :
    let requests : List Request :=
      [.addLine "#a" .empty "one", .addLine "#b" .empty "two", .destroy "#B"]
    let whole := (start (fun _ => 0) "relay.test" 1 Instant.epoch).after requests
    let own := requests.filter (·.concerns "#B")
    let alone := (start List.length "relay.test" 8 Instant.epoch).after own
    "#b".toLower = "#B".toLower ∧ whole.store.get? "#b" = alone.store.get? "#b" ∧
      whole.store.get? "#B" = none ∧ whole.store.destroy "#B" = ⟨whole.store, false, []⟩ ∧
      ∃ name tags text, Request.addLine "#b" .empty "three" = .addLine name tags text ∧
        name.toLower = "#B".toLower := by
  intro requests whole own alone
  obtain ⟨-, same, made, absent⟩ := targets_are_separate (fun _ => 0) List.length "relay.test" 1 8
    Instant.epoch requests "#B"
  have named : "#b".toLower = "#B".toLower := by
    rw [← Text.sameName_iff_toLower]
    decide +kernel
  have gone : whole.store.get? "#B" = none := by
    rw [← Option.isNone_iff_eq_none]
    decide +kernel
  refine ⟨named, ?_, gone, ?_, ?_⟩
  · exact (same "#b" named).1
  · exact (absent gone).1
  · exact made (.addLine "#b" .empty "three") gone (by decide +kernel)

end Archive

end Backlog
