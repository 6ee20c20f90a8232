import Backlog.Proofs.History.Effects
import Backlog.Proofs.Time.Stamps

/-!
# Where stored lines come from

A `Message` is what is added to the log of a target, with the time of its arrival.  Each line
that a store holds is the line of one message, and stays so: logs gain a line at their end when
a message arrives, and otherwise only lose lines.
-/

namespace Backlog

/-! ## Logs lose lines -/

namespace TargetLog

theorem unlinkOver_suffix (most : Nat) (lines : List Line) (count : Nat) :
    (unlinkOver most lines count).1 <:+ lines := by
  induction lines generalizing count with
  | nil => exact List.suffix_rfl
  | cons line rest ih =>
    unfold unlinkOver
    split
    · exact (ih (count - 1)).trans (List.suffix_cons line rest)
    · exact List.suffix_rfl

theorem lines_evictBefore_sublist (l : TargetLog) (cutoff : Instant) :
    (l.evictBefore cutoff).1.lines.Sublist l.lines := by
  unfold evictBefore
  split
  · exact List.filter_sublist
  · exact List.Sublist.refl _

theorem lines_truncate_sublist (l : TargetLog) (most : Nat) :
    (l.truncate most).1.lines.Sublist l.lines := by
  simp only [truncate]
  split
  · exact List.Sublist.refl _
  · exact (unlinkOver_suffix most l.lines l.count).sublist

theorem lines_trim_sublist (l : TargetLog) (cutoff : Option Instant) (most : Nat) :
    (l.trim cutoff most).1.lines.Sublist l.lines := by
  cases cutoff with
  | none => exact lines_truncate_sublist l most
  | some cutoff =>
    exact List.Sublist.trans (lines_truncate_sublist _ most) (lines_evictBefore_sublist l cutoff)

end TargetLog

/-! ## Messages -/

/-- What is added to the log of a target. -/
structure Message where
  target : String
  tags : TagSet
  text : String
  /-- The clock when it is added. -/
  arrival : Instant

namespace Message

/-- The line that a message is stored as. -/
def line (m : Message) : Line :=
  (Line.ofMessage m.tags m.text m.arrival).1

/-- Whether a message goes to a target, in whatever case. -/
def isFor (target : String) (m : Message) : Bool :=
  m.target.toLower = target.toLower

theorem line_of_timed {m : Message} {value : String} (timed : m.tags.get? "time" = some value) :
    m.line = ⟨(Stamp.parse? value).getD m.arrival, m.tags, m.text⟩ := by
  simp only [line, Line.ofMessage, Line.timeTag, timed]
  cases Stamp.parse? value <;> rfl

theorem line_of_untimed {m : Message} (untimed : m.tags.get? "time" = none) :
    m.line = ⟨m.arrival, m.tags.prepend ⟨"time", some (Stamp.format m.arrival)⟩, m.text⟩ := by
  simp only [line, Line.ofMessage, Line.timeTag, untimed]

theorem text_line (m : Message) : m.line.text = m.text := by
  cases timed : m.tags.get? "time" with
  | some value => rw [line_of_timed timed]
  | none => rw [line_of_untimed timed]

theorem tags_line (m : Message) (value : String) (timed : m.tags.get? "time" = some value) :
    m.line.tags = m.tags := by
  rw [line_of_timed timed]

theorem line_stamped (m : Message) (untimed : m.tags.get? "time" = none) :
    m.line.timestamp = m.arrival ∧
      m.line.tags = m.tags.prepend ⟨"time", some (Stamp.format m.arrival)⟩ := by
  rw [line_of_untimed untimed]
  exact ⟨rfl, rfl⟩

/-- A line has a time, whatever the message came with.  If it can be read, it is the timestamp of
    the line, in whole milliseconds where it was not told by the message. -/
theorem time_line (m : Message) :
    ∃ value, m.line.tags.get? "time" = some value ∧
      (∀ t, Stamp.parse? value = some t →
        t = if (m.tags.get? "time").isSome then m.line.timestamp else m.line.timestamp.wholeMillis) ∧
      (Stamp.parse? value = none → m.line.timestamp = m.arrival) := by
  cases timed : m.tags.get? "time" with
  | some value =>
    rw [line_of_timed timed]
    refine ⟨value, timed, ?_, ?_⟩
    · intro t read
      simp [read]
    · intro unread
      simp [unread]
  | none =>
    rw [line_of_untimed timed]
    refine ⟨Stamp.format m.arrival, TagSet.get?_prepend_self m.tags "time" _, ?_, fun _ => rfl⟩
    -- what is written of the arrival can be read, without the nanoseconds
    intro t read
    rw [Stamp.parse?_format] at read
    simpa [eq_comm] using read

end Message

/-! ## Lines of a target -/

/-- The lines that are held for a name. -/
def Directory.lines (d : Directory) (key : String) : List Line :=
  ((d.lookup key).map (·.lines)).getD []

namespace Archive

/-- The message that a request adds when it is served at `now`. -/
def Request.message? (now : Instant) : Request → Option Message
  | .addLine target tags text => some ⟨target, tags, text, now⟩
  | _ => none

/-- The messages that requests add which are served in order. -/
def messages (a : Archive) : List Request → List Message
  | [] => []
  | request :: rest => (request.message? a.now).toList ++ (a.serve request).1.messages rest

/-- A request without a message makes no log, and takes lines out of a log if it does anything
    to it. -/
theorem Request.lookup_effect_of_none {request : Request} {now : Instant}
    (none : request.message? now = none) {d : Directory} {key : String} {log' : TargetLog}
    (found : (request.effect now d).lookup key = some log') :
    ∃ log, d.lookup key = some log ∧ log'.lines.Sublist log.lines := by
  cases request with
  | addLine target tags text => cases none
  | trim target most age =>
    rw [effect, Directory.lookup_update] at found
    split at found
    · obtain ⟨log, before, rfl⟩ := Option.map_eq_some_iff.mp found
      exact ⟨log, before, log.lines_trim_sublist _ most⟩
    · exact ⟨log', found, List.Sublist.refl _⟩
  | trimAll most age =>
    rw [effect, Directory.lookup_map] at found
    obtain ⟨log, before, rfl⟩ := Option.map_eq_some_iff.mp found
    exact ⟨log, before, log.lines_trim_sublist _ most⟩
  | destroy target =>
    rw [effect, Directory.lookup_remove] at found
    split at found
    · cases found
    · exact ⟨log', found, List.Sublist.refl _⟩
  | replay id recipient target filter => exact ⟨log', found, List.Sublist.refl _⟩
  | turn now => exact ⟨log', found, List.Sublist.refl _⟩

/-- The line of a message stands last, in a log that may be new. -/
theorem Request.lookup_effect_addLine (now : Instant) (d : Directory) (target : String) (tags : TagSet)
    (text : String) :
    ((addLine target tags text).effect now d).lookup target.toLower =
      some (((d.lookup target.toLower).getD (.empty target)).append
        (⟨target, tags, text, now⟩ : Message).line) := by
  simp [effect, Directory.lookup_update, Directory.lookup_ensure, Message.line]

theorem Request.lines_effect_addLine (now : Instant) (d : Directory) (target : String) (tags : TagSet)
    (text : String) :
    ((addLine target tags text).effect now d).lines target.toLower =
      d.lines target.toLower ++ [(⟨target, tags, text, now⟩ : Message).line] := by
  simp only [Directory.lines, lookup_effect_addLine]
  cases d.lookup target.toLower <;> rfl

/-- The lines of a target after a request are among those before and that of the message, if
    it is for the target. -/
theorem Request.lines_effect (request : Request) (now : Instant) (d : Directory) (target : String) :
    ((request.effect now d).lines target.toLower).Sublist
      (d.lines target.toLower ++
        ((request.message? now).toList.filter (·.isFor target)).map Message.line) := by
  cases message : request.message? now with
  | none =>
    simp only [Directory.lines]
    cases found : (request.effect now d).lookup target.toLower with
    | none => exact List.nil_sublist _
    | some log' =>
      obtain ⟨log, before, fewer⟩ := lookup_effect_of_none message found
      simpa [before] using fewer
  | some m =>
    cases request with
    | addLine name tags text =>
      cases message
      by_cases own : name.toLower = target.toLower
      · rw [← own, lines_effect_addLine]
        simp [own, Message.isFor]
      · have other : (addLine name tags text).concerns target = false := by
          simp [concerns, target?, own]
        simp only [Directory.lines, lookup_effect_of_other other]
        exact List.sublist_append_left _ _
    | _ => cases message

/-- What a store holds for a target are lines of messages to it, in the order of arrival. -/
theorem lines_after {a : Archive} (proper : a.store.index.Proper) (requests : List Request)
    (target : String) :
    ((a.after requests).store.directory.lines target.toLower).Sublist
      (a.store.directory.lines target.toLower ++
        ((a.messages requests).filter (·.isFor target)).map Message.line) := by
  induction requests generalizing a with
  | nil => simp [after, messages]
  | cons request rest ih =>
    -- later lines are among those that this request leaves and those of later messages
    obtain ⟨kept, effect⟩ := serve_effect proper request
    have served := request.lines_effect a.now a.store.directory target
    rw [← effect] at served
    rw [messages, List.filter_append, List.map_append, ← List.append_assoc]
    exact List.Sublist.trans (ih kept) (served.append_right _)

theorem lines_of_mem {a : Archive} (proper : a.store.index.Proper) {log : TargetLog}
    (member : log ∈ a.store.index.toList) :
    a.store.directory.lines log.name.toLower = log.lines := by
  have found : a.store.get? log.name = some log := proper.get?_eq_some_iff.mpr ⟨member, rfl⟩
  rw [Store.get?_eq_lookup proper] at found
  rw [Directory.lines, found]
  rfl

theorem lines_sublist_messages (hash : List UInt8 → Nat) (server : String) (buckets : Nat)
    (first : Instant) (requests : List Request) {log : TargetLog}
    (member : log ∈ ((start hash server buckets first).after requests).store.index.toList) :
    log.lines.Sublist
      ((((start hash server buckets first).messages requests).filter (·.isFor log.name)).map
        Message.line) := by
  have proper := proper_start hash server buckets first
  have among := lines_after proper requests log.name
  have empty : (start hash server buckets first).store.directory.lines log.name.toLower = [] := by
    simp [Directory.lines, start, Store.directory, Store.empty, TargetIndex.directory_empty]
  rw [lines_of_mem (proper_after proper requests) member, empty, List.nil_append] at among
  exact among

/-- A line that is held has a time. -/
theorem time_of_held {hash : List UInt8 → Nat} {server : String} {buckets : Nat} {first : Instant}
    {requests : List Request} {target : String} {log : TargetLog}
    (found : ((start hash server buckets first).after requests).store.get? target = some log)
    {line : Line} (held : line ∈ log.lines) : ∃ value, line.tags.get? "time" = some value := by
  have among := lines_sublist_messages hash server buckets first requests
    (TargetIndex.mem_toList_of_get? found)
  obtain ⟨m, -, rfl⟩ := List.mem_map.mp (among.subset held)
  obtain ⟨value, time, -⟩ := m.time_line
  exact ⟨value, time⟩

/-- In every archive that requests can reach, the lines of a log are those of messages to its
    target, in the order in which they arrived.  A line has the text and the tags that its message
    came with, behind a tag for the time if none of them told it; its timestamp is the time that
    the tags tell, or that of the arrival where they tell none that can be read.  A message puts
    its line behind those that its target holds, all other requests only take lines out, those
    for another target leave the log alone, and a replay leaves the whole store alone. -/
theorem lines_keep_messages (hash : List UInt8 → Nat) (server : String) (buckets : Nat)
    (first : Instant) (requests : List Request) :
    let messages := (start hash server buckets first).messages requests
    let a := (start hash server buckets first).after requests
    (∀ log ∈ a.store.index.toList,
      log.lines.Sublist ((messages.filter (·.isFor log.name)).map Message.line)) ∧
    (∀ log ∈ a.store.index.toList, ∀ line ∈ log.lines,
      ∃ m ∈ messages, m.isFor log.name = true ∧ line = m.line ∧ line.text = m.text ∧
        (∀ value, m.tags.get? "time" = some value → line.tags = m.tags) ∧
        (m.tags.get? "time" = none → line.timestamp = m.arrival ∧
          line.tags = m.tags.prepend ⟨"time", some (Stamp.format m.arrival)⟩) ∧
        ∃ value, line.tags.get? "time" = some value ∧
          (∀ t, Stamp.parse? value = some t →
            t = if (m.tags.get? "time").isSome then line.timestamp else line.timestamp.wholeMillis) ∧
          (Stamp.parse? value = none → line.timestamp = m.arrival)) ∧
    (∀ request, request.message? a.now = none →
      ∀ target log', (a.serve request).1.store.get? target = some log' →
        ∃ log, a.store.get? target = some log ∧ log'.lines.Sublist log.lines) ∧
    (∀ request target, request.concerns target = false →
      (a.serve request).1.store.get? target = a.store.get? target) ∧
    (∀ target tags text,
      ((a.serve (.addLine target tags text)).1.store.get? target).map (·.lines) =
        some (((a.store.get? target).map (·.lines)).getD [] ++
          [(⟨target, tags, text, a.now⟩ : Message).line])) ∧
    ∀ now id recipient target filter,
      (a.store.replay now id recipient target filter).state = a.store := by
  intro messages a
  have proper : a.store.index.Proper := proper_after (proper_start hash server buckets first) requests
  have among : ∀ log ∈ a.store.index.toList,
      log.lines.Sublist ((messages.filter (·.isFor log.name)).map Message.line) :=
    fun log member => lines_sublist_messages hash server buckets first requests member
  refine ⟨among, ?_, ?_, ?_, ?_, ?_⟩
  · intro log member line held
    obtain ⟨m, sent, rfl⟩ := List.mem_map.mp ((among log member).subset held)
    obtain ⟨added, own⟩ := List.mem_filter.mp sent
    exact ⟨m, added, own, rfl, m.text_line, m.tags_line, m.line_stamped, m.time_line⟩
  · intro request none target log' found
    obtain ⟨kept, effect⟩ := serve_effect proper request
    rw [Store.get?_eq_lookup kept, effect] at found
    rw [Store.get?_eq_lookup proper]
    exact Request.lookup_effect_of_none none found
  · intro request target other
    obtain ⟨kept, effect⟩ := serve_effect proper request
    rw [Store.get?_eq_lookup kept, Store.get?_eq_lookup proper, effect]
    exact Request.lookup_effect_of_other other a.now a.store.directory
  · intro target tags text
    obtain ⟨kept, effect⟩ := serve_effect proper (.addLine target tags text)
    rw [Store.get?_eq_lookup kept, effect, Store.get?_eq_lookup proper,
      Request.lookup_effect_addLine]
    cases a.store.directory.lookup target.toLower <;> rfl
  · intro now id recipient target filter
    exact a.store.state_replay now id recipient target filter

/-- A message whose tag for the time has no value hides the one behind it, so its line is stamped
    with its arrival, to the millisecond. -/
theorem lines_keep_messages_hidden :
    let arrival : Instant := ⟨1, 2500000, by decide, by decide, by decide, by decide⟩
    let tags : TagSet := ⟨[⟨"time", none⟩, ⟨"time", some "1970-01-01T00:00:00.000Z"⟩]⟩
    let requests : List Request := [.turn arrival, .addLine "#a" tags "one", .trim "#A" 5 Age.longest]
    let a := (start (fun _ => 0) "relay.test" 1 Instant.epoch).after requests
    a.store.index.toList.map (·.lines.length) = [1] ∧
      (∀ log ∈ a.store.index.toList, ∀ line ∈ log.lines,
        line.timestamp = arrival ∧ line.text = "one" ∧
          line.tags = tags.prepend ⟨"time", some "1970-01-01T00:00:01.002Z"⟩ ∧
          Stamp.parse? "1970-01-01T00:00:01.002Z" = some arrival.wholeMillis) ∧
      (a.serve (.destroy "#b")).1.store.get? "#a" = a.store.get? "#a" := by
  intro arrival tags requests a
  have written : Stamp.format arrival = "1970-01-01T00:00:01.002Z" := by decide +kernel
  obtain ⟨-, lines, -, others, -⟩ :=
    lines_keep_messages (fun _ => 0) "relay.test" 1 Instant.epoch requests
  refine ⟨by decide +kernel, ?_, others (.destroy "#b") "#a" (by decide +kernel)⟩
  intro log member line held
  obtain ⟨m, sent, -, -, text, -, untimed, -⟩ := lines log member line held
  have only : (start (fun _ => 0) "relay.test" 1 Instant.epoch).messages requests =
      [⟨"#a", tags, "one", arrival⟩] := rfl
  rw [only, List.mem_singleton] at sent
  subst sent
  obtain ⟨timestamp, told⟩ := untimed rfl
  rw [← written]
  exact ⟨timestamp, text, told, Stamp.parse?_format arrival⟩

end Archive

end Backlog
