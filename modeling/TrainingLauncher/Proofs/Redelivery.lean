/-
Pulling a log again and again, with an observer that may refuse anything at any time. A pull that
fails does not move on in the log, also when the observer has taken something by then; this is
handed over once more by the next pull.

* `LogTail.places`: where in the log the bytes stand that the observer takes.
* `LogTail.places_contiguous_iff`: when they follow each other without a repeat.
* `LogTail.pulls_deliver`: this is what the observer receives from a number of pulls.
-/

import TrainingLauncher.Proofs.Delivery

namespace TrainingLauncher.LogTail

open Program

section Places

/-- One of several pulls: what was said, and how it ended. -/
structure Turn where
  exchanges : List Exchange
  result : Except IoError Unit

namespace Turn

/-- How many bytes the observer takes. -/
def count (turn : Turn) : Nat := (delivered turn.exchanges).size

/-- By how much the pull moves on in the log. -/
def advance (turn : Turn) : Nat :=
  match turn.result with
  | .ok _ => turn.count
  | .error _ => 0

/-- The pull fails although the observer has taken something. -/
def IsWasted (turn : Turn) : Prop := turn.result ≠ .ok () ∧ 0 < turn.count

variable {turn : Turn}

theorem advance_of_wasted (wasted : turn.IsWasted) : turn.advance = 0 := by
  obtain ⟨exchanges, result⟩ := turn
  cases result with
  | ok => exact (wasted.1 rfl).elim
  | error => rfl

/-- Any other pull moves on by what it has handed over. -/
theorem advance_of_not_wasted (fair : ¬turn.IsWasted) : turn.advance = turn.count := by
  obtain ⟨exchanges, result⟩ := turn
  cases result with
  | ok => rfl
  | error error =>
    have failed : Except.error error ≠ .ok () := fun same => by cases same
    exact (Nat.eq_zero_of_not_pos fun something => fair ⟨failed, something⟩).symm

end Turn

/-- Where the bytes stand in the log that the observer takes, when the first pull starts at a
place. -/
def places (start : Nat) : List Turn → List Nat
  | [] => []
  | turn :: rest => List.range' start turn.count ++ places (start + turn.advance) rest

variable {start : Nat} {turns : List Turn}

theorem places_eq_nil_iff : places start turns = [] ↔ ∀ turn ∈ turns, turn.count = 0 := by
  induction turns generalizing start with
  | nil => simp [places]
  | cons turn rest ih =>
    rw [places, List.append_eq_nil_iff, ih, List.range'_eq_nil_iff, List.forall_mem_cons]

/-- The first byte that is taken stands at the start. -/
theorem start_mem_places (something : places start turns ≠ []) : start ∈ places start turns := by
  induction turns generalizing start with
  | nil => exact (something rfl).elim
  | cons turn rest ih =>
    rw [places] at something ⊢
    rcases Nat.eq_zero_or_pos turn.count with nothing | positive
    · have still : turn.advance = 0 := by
        rw [Turn.advance_of_not_wasted fun wasted => (Nat.ne_of_gt wasted.2) nothing, nothing]
      rw [nothing, still] at something ⊢
      exact ih something
    · exact List.mem_append_left _ (List.mem_range'_1.mpr ⟨Nat.le_refl _, by omega⟩)

/-- A stretch of numbers is continued by what starts where it ends. -/
theorem range'_append_contiguous {count : Nat} {others : List Nat} :
    (∃ total, List.range' start count ++ others = List.range' start total) ↔
      ∃ rest, others = List.range' (start + count) rest := by
  constructor
  · rintro ⟨total, same⟩
    have enough : count ≤ total := by
      have lengths := congrArg List.length same
      rw [List.length_append, List.length_range', List.length_range'] at lengths
      omega
    rw [← Nat.add_sub_of_le enough, ← List.range'_append_1] at same
    exact ⟨_, List.append_cancel_left same⟩
  · rintro ⟨rest, rfl⟩
    exact ⟨count + rest, List.range'_append_1⟩

/-- **The bytes that are taken follow each other without a repeat exactly when nothing is taken
after a pull that was wasted.** -/
theorem places_contiguous_iff : (∃ count, places start turns = List.range' start count) ↔
    turns.Pairwise fun turn later => turn.IsWasted → later.count = 0 := by
  induction turns generalizing start with
  | nil => exact iff_of_true ⟨0, rfl⟩ .nil
  | cons turn rest ih =>
    rw [places, List.pairwise_cons]
    by_cases wasted : turn.IsWasted
    · -- the next byte to be taken would be the first one of this pull
      have again : (∀ later ∈ rest, later.count = 0) ↔ places start rest = [] :=
        places_eq_nil_iff.symm
      rw [Turn.advance_of_wasted wasted, Nat.add_zero]
      constructor
      · rintro ⟨count, same⟩
        have nothing : places start rest = [] := by
          by_contra something
          have distinct : (List.range' start turn.count ++ places start rest).Nodup :=
            same ▸ List.nodup_range'
          have first := List.mem_range'_1.mpr
            ⟨Nat.le_refl start, Nat.lt_add_of_pos_right wasted.2⟩
          exact (List.nodup_append.mp distinct).2.2 _ first _ (start_mem_places something) rfl
        have silent := again.mpr nothing
        exact ⟨fun later member _ => silent later member,
          List.pairwise_of_forall_mem_list fun _ _ later member _ => silent later member⟩
      · rintro ⟨silent, -⟩
        rw [again.mp fun later member => silent later member wasted, List.append_nil]
        exact ⟨_, rfl⟩
    · rw [Turn.advance_of_not_wasted wasted, range'_append_contiguous, ih]
      exact (and_iff_right fun _ _ absurd => (wasted absurd).elim).symm

end Places

section Pulls

/-- Pulls of one log after the other, with the handle before and after them. -/
inductive Pulls : Handle → List Turn → Handle → Prop
  | none (handle : Handle) : Pulls handle [] handle
  | one {handle left final : Handle} {exchanges : List Exchange} {result : Except IoError Unit}
      {turns : List Turn} (ran : Runs (pull handle) exchanges (result, left))
      (rest : Pulls left turns final) : Pulls handle (⟨exchanges, result⟩ :: turns) final

variable {handle left final : Handle} {turns : List Turn} {content : ByteArray}
  {events : List Event}

/-- What a pull does as one of several. -/
theorem turn_of_pull {exchanges : List Exchange} {result : Except IoError Unit}
    (ran : Runs (pull handle) exchanges (result, left)) (told : exchanged events = exchanges)
    (faithful : ∀ path ∈ handle.logPath, Faithful path content events) :
    delivered exchanges = (content ++ grown events).extract handle.logOffset
        (handle.logOffset + Turn.count ⟨exchanges, result⟩) ∧
      left = { handle with logOffset := handle.logOffset + Turn.advance ⟨exchanges, result⟩ } := by
  obtain ⟨handed, same | ⟨error, same⟩⟩ := pull_delivers ran told faithful
  · cases same
    exact ⟨handed, rfl⟩
  · cases same
    exact ⟨handed, rfl⟩

/-- The bytes of a stretch of a log, one by one. -/
theorem extract_bytes {log : ByteArray} {start count : Nat}
    (whole : (log.extract start (start + count)).size = count) :
    (log.extract start (start + count)).data.toList.map some =
      (List.range' start count).map fun place => log.data[place]? := by
  refine List.ext_getElem ?_ fun index inside within => ?_
  · rw [List.length_map, List.length_map, List.length_range', Array.length_toList]
    exact whole
  · rw [List.getElem_map, List.getElem_map, List.getElem_range', Nat.one_mul, Array.getElem_toList]
    simp only [ByteArray.data_extract]
    rw [Array.getElem_extract, Array.getElem?_eq_getElem]

/-- **What the observer receives.** It receives the bytes of the log at the places, and the handle
moves on by what the successful pulls have handed over. The places follow each other without a
repeat, from where the handle stood, exactly when nothing is taken after a pull that was wasted. -/
theorem pulls_deliver (pulls : Pulls handle turns final)
    (told : exchanged events = turns.flatMap (·.exchanges))
    (faithful : ∀ path ∈ handle.logPath, Faithful path content events) :
    (delivered (exchanged events)).data.toList.map some =
        (places handle.logOffset turns).map (fun place => (content ++ grown events).data[place]?) ∧
      final = { handle with logOffset := handle.logOffset + (turns.map Turn.advance).sum } ∧
      ((∃ count, places handle.logOffset turns = List.range' handle.logOffset count) ↔
        turns.Pairwise fun turn later => turn.IsWasted → later.count = 0) := by
  refine and_assoc.mp ⟨?_, places_contiguous_iff⟩
  induction pulls generalizing content events with
  | none handle =>
    rw [told]
    exact ⟨rfl, rfl⟩
  | @one handle left final exchanges result turns ran rest ih =>
    obtain ⟨first, second, rfl, one, others⟩ := List.filterMap_eq_append_iff.mp told
    obtain ⟨handed, rfl⟩ := turn_of_pull ran one fun path here =>
      (faithful_append.mp (faithful path here)).1
    obtain ⟨received, rfl⟩ := ih others fun path here =>
      (faithful_append.mp (faithful path here)).2
    have whole : ((content ++ grown first).extract handle.logOffset
        (handle.logOffset + Turn.count ⟨exchanges, result⟩)).size =
          Turn.count ⟨exchanges, result⟩ := by
      rw [← handed]
      rfl
    -- what was there for this pull is still there in the end
    have kept : (content ++ grown first ++ grown second).extract handle.logOffset
        (handle.logOffset + Turn.count ⟨exchanges, result⟩) = delivered exchanges := by
      rw [handed]
      refine extract_append_of_le ?_
      rw [ByteArray.size_extract] at whole
      omega
    constructor
    · rw [exchanged_append, delivered_append, ByteArray.data_append, Array.toList_append,
        List.map_append, received, grown_append, ← ByteArray.append_assoc, places, List.map_append,
        ← extract_bytes (by rw [kept]; rfl), kept]
      exact congrArg (fun said => (delivered said).data.toList.map some ++ _) one
    · rw [List.map_cons, List.sum_cons, ← Nat.add_assoc]

/-- A trainer of whose log nothing has been forwarded. -/
def unseen : Handle where
  child := 0
  pid := 1000
  role := .trainer
  rank := 0
  slot := 0
  logPath := some "log/workerlog.0"
  logOpen := true
  logOffset := 0

/-- A pull of that log, with an observer that may refuse to flush. -/
def unseenTurn (flushed : Except IoError Unit) : Turn where
  exchanges := (pull unseen).transcript (stillHost fiveBytes none flushed) ()
  result := ((pull unseen).run (stillHost fiveBytes none flushed) ()).1.1

theorem pulls_deliver_unseen :
    Pulls unseen [unseenTurn (.ok ())] { unseen with logOffset := 5 } ∧
      (delivered (unseenTurn (.ok ())).exchanges).data.toList.map some =
        (places 0 [unseenTurn (.ok ())]).map (fun place => fiveBytes.data[place]?) := by
  have ran := runs_transcript (stillHost fiveBytes none (.ok ())) (pull unseen) ()
  have outcome : ((pull unseen).run (stillHost fiveBytes none (.ok ())) ()).1 =
      ((unseenTurn (.ok ())).result, { unseen with logOffset := 5 }) := by decide +kernel
  rw [outcome] at ran
  have pulls : Pulls unseen [unseenTurn (.ok ())] { unseen with logOffset := 5 } :=
    .one ran (.none _)
  have told := exchanged_map_exchange (unseenTurn (.ok ())).exchanges
  obtain ⟨received, -⟩ := pulls_deliver pulls (told.trans (List.append_nil _).symm)
    fun path _ => faithful_stillHost (pull unseen)
  rw [told, grown_map_exchange, ByteArray.append_empty] at received
  exact ⟨pulls, received⟩

/-- A pull with an observer that takes everything and then refuses to flush. -/
def refusedTurn : Turn := unseenTurn (.error (.other "observer can't flush"))

/-- What two such pulls hand over stands nowhere in the log. The first of them has handed over all
of it, but the handle is where it was. -/
theorem pulls_repeat :
    Pulls unseen [refusedTurn, refusedTurn] unseen ∧
      Faithful "log/workerlog.0" fiveBytes
        ((refusedTurn.exchanges ++ refusedTurn.exchanges).map .exchange) ∧
      delivered refusedTurn.exchanges = fiveBytes ∧
      delivered (refusedTurn.exchanges ++ refusedTurn.exchanges) = "step\nstep\n".toUTF8 ∧
      ∀ start stop, "step\nstep\n".toUTF8 ≠ fiveBytes.extract start stop := by
  have ran := runs_transcript (stillHost fiveBytes none (.error (.other "observer can't flush")))
    (pull unseen) ()
  have outcome : ((pull unseen).run
      (stillHost fiveBytes none (.error (.other "observer can't flush"))) ()).1 =
        (refusedTurn.result, unseen) := by decide +kernel
  rw [outcome] at ran
  refine ⟨.one ran (.one ran (.none _)), by decide +kernel, by decide +kernel, by decide +kernel,
    ?_⟩
  intro start stop same
  have sizes := congrArg ByteArray.size same
  rw [ByteArray.size_extract, show "step\nstep\n".toUTF8.size = 10 by decide +kernel,
    show fiveBytes.size = 5 by decide +kernel] at sizes
  omega

end Pulls

end TrainingLauncher.LogTail
