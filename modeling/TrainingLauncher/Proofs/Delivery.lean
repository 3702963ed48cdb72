/-
What the observer of a job receives. Logs grow while the launcher is at work, so that what it reads
of a log depends on the moment: an account of what has happened tells the exchanges and, between
them, what was written to the log. Nothing else ever happens to a log.

* `Event`, `Faithful`: such accounts, and that all that is said of a log is true at its moment.
* `delivered`: what the observer has taken, also the beginning of a piece that it then refuses.
* `LogTail.together_pieces`, `LogTail.runs_forward`: the pieces of some bytes are all of them, and
  what the observer takes is their beginning.
* `LogTail.Pulled`: the ways in which a pull can go.
* `LogTail.pull_delivers`, `LogTail.pull_reads`: a pull hands over what follows in the log, as far
  as the observer takes it; one that never fails gets all that is allowed.
-/

import Mathlib
import TrainingLauncher.Proofs.LogTail

namespace TrainingLauncher

open Program

section Accounts

/-- Something that happens while the launcher is at work. -/
inductive Event where
  /-- Something is written to the end of the log. -/
  | growth (bytes : ByteArray)
  | exchange (exchange : Exchange)

/-- The exchange of an event that is one. -/
def exchanged? : Event → Option Exchange
  | .growth _ => none
  | .exchange exchange => some exchange

/-- The exchanges among events. -/
def exchanged (events : List Event) : List Exchange := events.filterMap exchanged?

/-- What was written to the log in the course of events. -/
def grown : List Event → ByteArray
  | [] => .empty
  | .growth bytes :: rest => bytes ++ grown rest
  | .exchange _ :: rest => grown rest

/-- What an exchange says of a log is true when the log has the content: its length when it is
opened, and what stands in it when it is read. -/
def shows (path : String) (content : ByteArray) : Exchange → Bool
  | ⟨.openLog other, .ok length⟩ => other != path || decide (length = content.size)
  | ⟨.readLog other offset limit, .ok bytes⟩ =>
    other != path || decide (bytes = content.extract offset (offset + limit))
  | _ => true

/-- All that is said of a log is true at its moment. In the beginning the log has the content. -/
def Faithful (path : String) (content : ByteArray) : List Event → Prop
  | [] => True
  | .growth bytes :: rest => Faithful path (content ++ bytes) rest
  | .exchange exchange :: rest => shows path content exchange = true ∧ Faithful path content rest

instance decidableFaithful (path : String) :
    (content : ByteArray) → (events : List Event) → Decidable (Faithful path content events)
  | _, [] => .isTrue trivial
  | content, .growth bytes :: rest => decidableFaithful path (content ++ bytes) rest
  | content, .exchange exchange :: rest =>
    have := decidableFaithful path content rest
    inferInstanceAs (Decidable (shows path content exchange = true ∧ Faithful path content rest))

variable {path : String} {content : ByteArray} {events first second : List Event}
  {exchanges others : List Exchange}

@[simp] theorem exchanged_append :
    exchanged (first ++ second) = exchanged first ++ exchanged second :=
  List.filterMap_append

@[simp] theorem exchanged_growth (bytes : ByteArray) (events : List Event) :
    exchanged (.growth bytes :: events) = exchanged events := rfl

@[simp] theorem grown_append : grown (first ++ second) = grown first ++ grown second := by
  induction first with
  | nil => exact ByteArray.empty_append.symm
  | cons event rest ih =>
    cases event with
    | growth bytes => exact (congrArg _ ih).trans ByteArray.append_assoc.symm
    | exchange exchange => exact ih

/-- What stands in a log at the end stood there at a moment or was written later. -/
theorem append_grown_exchange (content : ByteArray) (first second : List Event)
    (exchange : Exchange) : content ++ grown (first ++ .exchange exchange :: second) =
      content ++ grown first ++ grown second := by
  rw [grown_append, grown, ByteArray.append_assoc]

theorem faithful_append : Faithful path content (first ++ second) ↔
    Faithful path content first ∧ Faithful path (content ++ grown first) second := by
  induction first generalizing content with
  | nil => simp [Faithful, grown]
  | cons event rest ih =>
    cases event with
    | growth bytes =>
      refine ih.trans (and_congr_right' ?_)
      rw [grown, ByteArray.append_assoc]
    | exchange exchange => exact (and_congr_right' ih).trans and_assoc.symm

/-- What is said one after the other also happens one after the other. -/
theorem Faithful.split (faithful : Faithful path content events)
    (told : exchanged events = exchanges ++ others) :
    ∃ first second, events = first ++ second ∧ exchanged first = exchanges ∧
      exchanged second = others ∧ Faithful path content first ∧
        Faithful path (content ++ grown first) second := by
  obtain ⟨first, second, rfl, before, after⟩ := List.filterMap_eq_append_iff.mp told
  exact ⟨first, second, rfl, before, after, faithful_append.mp faithful⟩

/-- The first exchange happens after some growth, and at that moment it is true. -/
theorem Faithful.uncons {exchange : Exchange} (faithful : Faithful path content events)
    (told : exchanged events = exchange :: exchanges) :
    ∃ first second, events = first ++ .exchange exchange :: second ∧ exchanged first = [] ∧
      exchanged second = exchanges ∧ shows path (content ++ grown first) exchange = true := by
  obtain ⟨first, event, second, rfl, silent, same, after⟩ := List.filterMap_eq_cons_iff.mp told
  cases event with
  | growth bytes => cases same
  | exchange other =>
    cases same
    obtain ⟨-, shown, -⟩ := faithful_append.mp faithful
    exact ⟨first, second, rfl, List.filterMap_eq_nil_iff.mpr silent, after, shown⟩

theorem bytes_of_shows {offset limit : Nat} {bytes : ByteArray}
    (shown : shows path content ⟨.readLog path offset limit, .ok bytes⟩ = true) :
    bytes = content.extract offset (offset + limit) := by
  simpa [shows] using shown

theorem length_of_shows {length : Nat}
    (shown : shows path content ⟨.openLog path, .ok length⟩ = true) : length = content.size := by
  simpa [shows] using shown

end Accounts

section Observer

/-- What the observer takes in an exchange. Of what it refuses it may take the beginning. -/
def taken : Exchange → ByteArray
  | ⟨.forward bytes, .ok ()⟩ => bytes
  | ⟨.forward bytes, .error refusal⟩ => bytes.extract 0 refusal.taken
  | _ => .empty

/-- What the observer has received. -/
def delivered : List Exchange → ByteArray
  | [] => .empty
  | exchange :: rest => taken exchange ++ delivered rest

/-- The observer refuses something. -/
def rebuffs : Exchange → Bool
  | ⟨.forward _, .error _⟩ => true
  | ⟨.flushObserver, .error _⟩ => true
  | _ => false

/-- The observer never fails. -/
def Willing (exchanges : List Exchange) : Prop := ∀ exchange ∈ exchanges, rebuffs exchange = false

variable {first second exchanges : List Exchange}

@[simp] theorem delivered_nil : delivered [] = .empty := rfl

@[simp] theorem delivered_append :
    delivered (first ++ second) = delivered first ++ delivered second := by
  induction first with
  | nil => exact ByteArray.empty_append.symm
  | cons exchange rest ih => exact (congrArg _ ih).trans ByteArray.append_assoc.symm

theorem delivered_eq_empty (silent : ∀ exchange ∈ exchanges, exchange.request.IsSilent) :
    delivered exchanges = .empty := by
  induction exchanges with
  | nil => rfl
  | cons exchange rest ih =>
    obtain ⟨fine, others⟩ := List.forall_mem_cons.mp silent
    obtain ⟨request, answer⟩ := exchange
    rw [delivered, ih others, ByteArray.append_empty]
    cases request <;> first | exact fine.elim | rfl

theorem willing_append : Willing (first ++ second) ↔ Willing first ∧ Willing second :=
  List.forall_mem_append

end Observer

/-- Nothing stands behind the end. -/
theorem extract_min_size (bytes : ByteArray) (start stop : Nat) :
    bytes.extract start stop = bytes.extract start (min stop bytes.size) := by
  have within := @ByteArray.extract_extract bytes 0 bytes.size start stop
  rwa [ByteArray.extract_zero_size, Nat.zero_add, Nat.zero_add] at within

theorem le_size_append {log : ByteArray} {place : Nat} (within : place ≤ log.size)
    (more : ByteArray) : place ≤ (log ++ more).size := by
  rw [ByteArray.size_append]
  exact Nat.le_add_right_of_le within

/-- What stood in a log stands there for good. -/
theorem extract_append_left {content more : ByteArray} {start stop : Nat}
    (within : stop ≤ content.size) :
    (content ++ more).extract start stop = content.extract start stop := by
  have nothing : more.extract (start - content.size) (stop - content.size) = .empty :=
    ByteArray.extract_eq_empty_iff.mpr (by omega)
  rw [ByteArray.extract_append, nothing, ByteArray.append_empty]

/-- Bytes that can be counted off stood in the log, wherever they are to start. -/
theorem extract_append_of_le {content more : ByteArray} {start count : Nat}
    (within : count ≤ content.size - start) :
    (content ++ more).extract start (start + count) = content.extract start (start + count) := by
  rcases Nat.le_total start content.size with inside | beyond
  · exact extract_append_left (by omega)
  · obtain rfl : count = 0 := by omega
    rw [Nat.add_zero, ByteArray.extract_same, ByteArray.extract_same]

/-- The beginning of what was read. -/
theorem extract_extract_zero {content : ByteArray} {start limit count : Nat}
    (within : count ≤ (content.extract start (start + limit)).size) :
    (content.extract start (start + limit)).extract 0 count =
      content.extract start (start + count) := by
  rw [ByteArray.size_extract] at within
  rw [ByteArray.extract_extract, Nat.add_zero, Nat.min_eq_left (by omega)]

namespace LogTail

section Pieces

variable {size : Nat} {bytes : ByteArray}

/-- Pieces put together again. -/
def together : List ByteArray → ByteArray
  | [] => .empty
  | piece :: rest => piece ++ together rest

theorem together_append (first second : List ByteArray) :
    together (first ++ second) = together first ++ together second := by
  induction first with
  | nil => exact ByteArray.empty_append.symm
  | cons piece rest ih => exact (congrArg _ ih).trans ByteArray.append_assoc.symm

/-- The first so many pieces are the beginning of the bytes. -/
theorem together_range (size : Nat) (bytes : ByteArray) (count : Nat) :
    together ((List.range count).map fun index =>
      bytes.extract (index * size) ((index + 1) * size)) = bytes.extract 0 (count * size) := by
  induction count with
  | zero => rw [Nat.zero_mul, ByteArray.extract_same]; rfl
  | succ count ih =>
    have further : count * size ≤ (count + 1) * size := Nat.mul_le_mul_right _ (Nat.le_succ _)
    rw [List.range_succ, List.map_append, together_append, ih,
      ByteArray.extract_eq_extract_append_extract (count * size) (Nat.zero_le _) further]
    exact congrArg _ ByteArray.append_empty

/-- **The pieces of some bytes are all of them.** -/
theorem together_pieces (positive : 0 < size) : together (pieces size bytes) = bytes := by
  have enough : bytes.size ≤ (bytes.size + (size - 1)) / size * size := by
    have remainder := Nat.div_add_mod (bytes.size + (size - 1)) size
    have bound := Nat.mod_lt (bytes.size + (size - 1)) positive
    rw [Nat.mul_comm] at remainder
    omega
  rw [pieces, together_range, extract_min_size, Nat.min_eq_right enough,
    ByteArray.extract_zero_size]

end Pieces

section Forwarding

variable {exchanges : List Exchange}

/-- Pieces are handed over one after the other, until one is refused. So the observer takes the
beginning of all of them, and all if none is refused. -/
theorem runs_forwardAll {parts : List ByteArray} {result : Except IoError Unit}
    (ran : Runs (forwardAll parts) exchanges result) :
    ∃ stop ≤ (together parts).size, delivered exchanges = (together parts).extract 0 stop ∧
      (result = .ok () ∧ stop = (together parts).size ∨
        (∃ error, result = .error error) ∧ ¬Willing exchanges) := by
  induction parts generalizing exchanges with
  | nil =>
    obtain ⟨rfl, rfl⟩ := runs_pure.mp ran
    exact ⟨0, Nat.le_refl _, ByteArray.extract_same.symm, .inl ⟨rfl, rfl⟩⟩
  | cons part rest ih =>
    obtain ⟨answer, others, rfl, after⟩ := runs_ask.mp ran
    rw [together, ByteArray.size_append]
    cases answer with
    | error refusal =>
      obtain ⟨rfl, rfl⟩ := runs_pure.mp after
      have within := Nat.min_le_right refusal.taken part.size
      refine ⟨min refusal.taken part.size, Nat.le_add_right_of_le within, ?_,
        .inr ⟨⟨_, rfl⟩, fun willing => Bool.noConfusion (willing _ List.mem_cons_self)⟩⟩
      rw [extract_append_left within, ← extract_min_size]
      exact ByteArray.append_empty
    | ok =>
      obtain ⟨stop, within, handed, ending⟩ := ih after
      refine ⟨part.size + stop, Nat.add_le_add_left within _, ?_, ending.imp ?_ ?_⟩
      · rw [ByteArray.extract_append, extract_min_size, Nat.min_eq_right (Nat.le_add_right ..),
          ByteArray.extract_zero_size, Nat.zero_sub, Nat.add_sub_cancel_left, ← handed]
        rfl
      · exact And.imp_right (congrArg (part.size + ·))
      · exact And.imp_right fun unwilling willing =>
          unwilling fun exchange member => willing exchange (List.mem_cons_of_mem _ member)

/-- **The observer takes the beginning of the bytes.** It takes all of them unless it refuses
something. -/
theorem runs_forward {bytes : ByteArray} {result : Except IoError Nat}
    (ran : Runs (forward bytes) exchanges result) :
    ∃ stop ≤ bytes.size, delivered exchanges = bytes.extract 0 stop ∧
      (result = .ok bytes.size ∧ stop = bytes.size ∨
        (∃ error, result = .error error) ∧ ¬Willing exchanges) := by
  obtain ⟨first, second, forwarded, rfl, handing, after⟩ := (runs_bind _ _ _ _).mp ran
  have whole : together (pieces pieceSize bytes) = bytes := together_pieces (by decide)
  obtain ⟨stop, within, handed, ⟨rfl, rfl⟩ | ⟨⟨error, rfl⟩, unwilling⟩⟩ := runs_forwardAll handing
  · rw [ByteArray.extract_zero_size, whole] at handed
    obtain ⟨flushed, rest, rfl, done⟩ := runs_ask.mp after
    cases flushed with
    | error error =>
      obtain ⟨rfl, rfl⟩ := runs_pure.mp done
      refine ⟨bytes.size, Nat.le_refl _, ?_, .inr ⟨⟨error, rfl⟩, fun willing => ?_⟩⟩
      · rw [delivered_append, handed, ByteArray.extract_zero_size]
        exact ByteArray.append_empty
      · exact Bool.noConfusion ((willing_append.mp willing).2 _ List.mem_cons_self)
    | ok =>
      obtain ⟨rfl, rfl⟩ := runs_pure.mp done
      refine ⟨bytes.size, Nat.le_refl _, ?_, .inl ⟨rfl, rfl⟩⟩
      rw [delivered_append, handed, ByteArray.extract_zero_size]
      exact ByteArray.append_empty
  · obtain ⟨rfl, rfl⟩ := runs_pure.mp after
    rw [whole] at within handed
    rw [List.append_nil]
    exact ⟨stop, within, handed, .inr ⟨⟨error, rfl⟩, unwilling⟩⟩

/-- Handing over reads nothing. -/
theorem forward_asks (bytes : ByteArray) :
    (forward bytes).Asks fun request =>
      request = .flushObserver ∨ ∃ piece, request = .forward piece := by
  have handing (parts : List ByteArray) : (forwardAll parts).Asks fun request =>
      request = .flushObserver ∨ ∃ piece, request = .forward piece := by
    induction parts with
    | nil => exact asks_pure _
    | cons part rest ih =>
      refine asks_bind (asks_request (.inr ⟨part, rfl⟩)) fun answer => ?_
      cases answer with
      | ok => exact ih
      | error error => exact asks_pure _
  refine asks_bind (handing _) fun forwarded => ?_
  cases forwarded with
  | error error => exact asks_pure _
  | ok =>
    refine asks_bind (asks_request (.inl rfl)) fun flushed => ?_
    cases flushed <;> exact asks_pure _

end Forwarding

section Pulls

/-- The ways in which a pull can go, with what is left of the handle. -/
inductive Pulled (handle : Handle) : List Exchange → Except IoError Unit × Handle → Prop
  /-- There is no log. -/
  | unlogged (nowhere : handle.logPath = none) : Pulled handle [] (.ok (), handle)
  /-- The log cannot be read. -/
  | unread {path : String} (error : IoError) (here : handle.logPath = some path) :
      Pulled handle [⟨.readLog path handle.logOffset pullLimit, .error error⟩]
        (.error error, handle)
  /-- The observer takes everything that was read. -/
  | taken {path : String} {bytes : ByteArray} {forwarding : List Exchange}
      (here : handle.logPath = some path)
      (forwarded : Runs (forward bytes) forwarding (.ok bytes.size))
      (whole : delivered forwarding = bytes) :
      Pulled handle (⟨.readLog path handle.logOffset pullLimit, .ok bytes⟩ :: forwarding)
        (.ok (), { handle with logOffset := handle.logOffset + bytes.size })
  /-- The observer takes the beginning and refuses the rest, or to flush. -/
  | refused {path : String} {bytes : ByteArray} {forwarding : List Exchange} (error : IoError)
      {stop : Nat} (here : handle.logPath = some path)
      (forwarded : Runs (forward bytes) forwarding (.error error)) (within : stop ≤ bytes.size)
      (part : delivered forwarding = bytes.extract 0 stop) (unwilling : ¬Willing forwarding) :
      Pulled handle (⟨.readLog path handle.logOffset pullLimit, .ok bytes⟩ :: forwarding)
        (.error error, handle)

/-- **Every pull goes in one of these ways.** -/
theorem pulled_of_runs {handle : Handle} {exchanges : List Exchange}
    {outcome : Except IoError Unit × Handle} (ran : Runs (pull handle) exchanges outcome) :
    Pulled handle exchanges outcome := by
  unfold pull at ran
  split at ran
  · rename_i nowhere
    obtain ⟨rfl, rfl⟩ := runs_pure.mp ran
    exact .unlogged nowhere
  · rename_i path here
    obtain ⟨read, rest, rfl, after⟩ := runs_ask.mp ran
    cases read with
    | error error =>
      obtain ⟨rfl, rfl⟩ := runs_pure.mp after
      exact .unread error here
    | ok bytes =>
      obtain ⟨forwarding, nothing, result, rfl, forwarded, done⟩ := (runs_bind _ _ _ _).mp after
      obtain ⟨stop, within, handed, ⟨rfl, rfl⟩ | ⟨⟨error, rfl⟩, unwilling⟩⟩ :=
        runs_forward forwarded
      · obtain ⟨rfl, rfl⟩ := runs_pure.mp done
        rw [List.append_nil]
        exact .taken here forwarded (handed.trans ByteArray.extract_zero_size)
      · obtain ⟨rfl, rfl⟩ := runs_pure.mp done
        rw [List.append_nil]
        exact .refused error here forwarded within handed unwilling

variable {handle : Handle} {exchanges : List Exchange} {path : String} {content : ByteArray}
  {events : List Event} {outcome : Except IoError Unit × Handle}

/-- What is handed over of what was read still stands in the log at the end. -/
theorem delivers_of_read {offset limit stop : Nat} {bytes : ByteArray} {forwarding : List Exchange}
    (faithful : Faithful path content events)
    (told : exchanged events = ⟨.readLog path offset limit, .ok bytes⟩ :: forwarding)
    (within : stop ≤ bytes.size) (part : delivered forwarding = bytes.extract 0 stop) :
    delivered (⟨.readLog path offset limit, .ok bytes⟩ :: forwarding) =
        (content ++ grown events).extract offset (offset + stop) ∧
      (delivered (⟨.readLog path offset limit, .ok bytes⟩ :: forwarding)).size = stop := by
  obtain ⟨earlier, later, rfl, -, -, shown⟩ := faithful.uncons told
  have read := bytes_of_shows shown
  have bound : stop ≤ (content ++ grown earlier).size - offset := by
    rw [read, ByteArray.size_extract] at within
    omega
  have handed : delivered (⟨.readLog path offset limit, .ok bytes⟩ :: forwarding) =
      bytes.extract 0 stop := ByteArray.empty_append.trans part
  rw [append_grown_exchange, extract_append_of_le bound, handed]
  constructor
  · rw [read] at within ⊢
    exact extract_extract_zero within
  · rw [ByteArray.size_extract, Nat.min_eq_left within, Nat.sub_zero]

/-- **A pull hands over what follows in the log**, as far as the observer takes it. If it succeeds
it moves on by so much, and otherwise it stays where it is. -/
theorem pull_delivers (ran : Runs (pull handle) exchanges outcome)
    (told : exchanged events = exchanges)
    (faithful : ∀ path ∈ handle.logPath, Faithful path content events) :
    delivered exchanges = (content ++ grown events).extract handle.logOffset
        (handle.logOffset + (delivered exchanges).size) ∧
      (outcome = (.ok (), { handle with
          logOffset := handle.logOffset + (delivered exchanges).size }) ∨
        ∃ error, outcome = (.error error, handle)) := by
  cases pulled_of_runs ran with
  | unlogged => exact ⟨ByteArray.extract_same.symm, .inl rfl⟩
  | unread error => exact ⟨ByteArray.extract_same.symm, .inr ⟨error, rfl⟩⟩
  | taken here forwarded whole =>
    obtain ⟨handed, size⟩ := delivers_of_read (faithful _ here) told (Nat.le_refl _)
      (whole.trans ByteArray.extract_zero_size.symm)
    rw [size]
    exact ⟨handed, .inl rfl⟩
  | refused error here forwarded within part =>
    obtain ⟨handed, size⟩ := delivers_of_read (faithful _ here) told within part
    rw [size]
    exact ⟨handed, .inr ⟨error, rfl⟩⟩

/-- How far a pull comes in a log that it reads from a place on: to the end, or as far as is
allowed, and nowhere if the log cannot be read. -/
def reach (place : Nat) (log : ByteArray) : Except IoError ByteArray → Nat
  | .ok _ => place + min pullLimit (log.size - place)
  | .error _ => place

/-- A log has been received to its end exactly when the handle stands there. -/
theorem extract_eq_rest_iff {log : ByteArray} {start place : Nat} (started : start ≤ place)
    (within : place ≤ log.size) :
    log.extract start place = log.extract start log.size ↔ place = log.size := by
  refine ⟨fun same => ?_, fun same => same ▸ rfl⟩
  have sizes := congrArg ByteArray.size same
  rw [ByteArray.size_extract, ByteArray.size_extract] at sizes
  omega

/-- A pull comes no further than to the end of the log. -/
theorem reach_le {place : Nat} {log : ByteArray} (within : place ≤ log.size)
    (answer : Except IoError ByteArray) : reach place log answer ≤ log.size := by
  cases answer with
  | error error => exact within
  | ok bytes =>
    rw [reach]
    omega

theorem le_reach (place : Nat) (log : ByteArray) (answer : Except IoError ByteArray) :
    place ≤ reach place log answer := by
  cases answer with
  | error error => exact Nat.le_refl _
  | ok bytes => exact Nat.le_add_right _ _

/-- What was received up to a place and what a pull from there adds. Both still stand in the log
when it has grown. -/
theorem extract_reach {start place : Nat} {log more later : ByteArray} (started : start ≤ place)
    (within : place ≤ log.size) (answer : Except IoError ByteArray) :
    log.extract start place ++ (log ++ more).extract place (reach place (log ++ more) answer) =
      (log ++ more ++ later).extract start (reach place (log ++ more) answer) := by
  rw [extract_append_left (reach_le (le_size_append within more) answer),
    ← extract_append_left within]
  exact (ByteArray.extract_eq_extract_append_extract _ started (le_reach _ _ answer)).symm

/-- **When a pull comes to the end of what the log will be**: nothing comes later, no more is unread
than is allowed, and the log can be read unless nothing is. -/
theorem reach_eq_iff {place : Nat} {log : ByteArray} (within : place ≤ log.size)
    (answer : Except IoError ByteArray) (more : ByteArray) :
    reach place log answer = (log ++ more).size ↔
      more = .empty ∧ log.size ≤ place + pullLimit ∧
        ∀ error, answer = .error error → place = log.size := by
  rw [← ByteArray.size_eq_zero_iff, ByteArray.size_append]
  cases answer with
  | error error =>
    simp only [reach, Except.error.injEq, forall_eq']
    omega
  | ok bytes =>
    simp only [reach, reduceCtorEq, false_implies, implies_true, and_true]
    omega

/-- A log is read from a place on, between earlier events and later ones, and after that it is not
read again. -/
structure LastRead (path : String) (place : Nat) (answer : Except IoError ByteArray)
    (earlier later events : List Event) : Prop where
  split : events = earlier ++ .exchange ⟨.readLog path place pullLimit, answer⟩ :: later
  last : ∀ exchange ∈ exchanged later, ∀ offset limit,
    exchange.request ≠ .readLog path offset limit

/-- **A pull with an observer that never fails** reads the log, hands over what stands there up to
where it comes, and moves on to there. -/
theorem pull_reads (ran : Runs (pull handle) exchanges outcome) (here : handle.logPath = some path)
    (told : exchanged events = exchanges) (faithful : Faithful path content events)
    (willing : Willing exchanges) :
    ∃ earlier later answer, LastRead path handle.logOffset answer earlier later events ∧
      delivered exchanges = (content ++ grown earlier).extract handle.logOffset
        (reach handle.logOffset (content ++ grown earlier) answer) ∧
      outcome.2 = { handle with
        logOffset := reach handle.logOffset (content ++ grown earlier) answer } := by
  cases pulled_of_runs ran with
  | unlogged nowhere =>
    rw [nowhere] at here
    cases here
  | unread error there =>
    obtain rfl : path = _ := Option.some.inj (here.symm.trans there)
    obtain ⟨earlier, later, rfl, -, after, -⟩ := faithful.uncons told
    refine ⟨earlier, later, .error error, ⟨rfl, ?_⟩, ByteArray.extract_same.symm, rfl⟩
    rw [after]
    exact fun _ member => by cases member
  | refused error there forwarded within part unwilling =>
    exact (unwilling fun exchange member => willing exchange (List.mem_cons_of_mem _ member)).elim
  | @taken _ bytes forwarding there forwarded whole =>
    obtain rfl : path = _ := Option.some.inj (here.symm.trans there)
    obtain ⟨earlier, later, rfl, -, after, shown⟩ := faithful.uncons told
    have read := bytes_of_shows shown
    have size : bytes.size =
        min pullLimit ((content ++ grown earlier).size - handle.logOffset) := by
      rw [read, ByteArray.size_extract]
      omega
    refine ⟨earlier, later, .ok bytes, ⟨rfl, ?_⟩, ?_, by rw [reach, size]⟩
    · intro exchange member offset limit
      rw [after] at member
      rcases forwarded.asked (forward_asks bytes) exchange member with same | ⟨piece, same⟩ <;>
        rw [same] <;> exact fun other => by cases other
    · rw [reach, ← size, ← extract_extract_zero (Nat.le_of_eq (congrArg _ read)), ← read,
        ByteArray.extract_zero_size]
      exact ByteArray.empty_append.trans whole

end Pulls

end LogTail

section Still

/-- A machine on which nothing changes. Its logs have the content, its processes the status, and it
grants everything else; only flushing the observer may be refused. -/
def stillHost (content : ByteArray) (status : Option Int) (flushed : Except IoError Unit) :
    Host Unit where
  answer request _ := (match request with
    | .report _ | .sleep _ | .print _ | .complain _ => ()
    | .interrupted => false
    | .createDirectory _ | .writeFile _ _ | .removeRendezvous _ => .ok ()
    | .fileExists _ => true
    | .readFile _ => .ok ""
    | .createRendezvous stem => .ok stem
    | .openLog _ => .ok content.size
    | .readLog _ offset limit => .ok (content.extract offset (offset + limit))
    | .forward _ => .ok ()
    | .flushObserver => flushed
    | .spawn child .. => .ok child
    | .poll _ => .ok status
    | .terminate _ | .kill _ => .ok ()
    | .wait _ => .ok (status.getD 0), ())

/-- What that machine says of its logs is true. -/
theorem faithful_stillHost {path : String} {content : ByteArray} {status : Option Int}
    {flushed : Except IoError Unit} (program : Program α) :
    Faithful path content
      ((program.transcript (stillHost content status flushed) ()).map .exchange) := by
  induction program with
  | done value => trivial
  | ask request next ih =>
    refine ⟨?_, ih _⟩
    cases request <;> simp [shows]

theorem willing_stillHost {content : ByteArray} {status : Option Int} (program : Program α) :
    Willing (program.transcript (stillHost content status (.ok ())) ()) := by
  induction program with
  | done value => exact fun _ member => by cases member
  | ask request next ih =>
    refine List.forall_mem_cons.mpr ⟨?_, ih _⟩
    cases request <;> rfl

@[simp] theorem exchanged_map_exchange (exchanges : List Exchange) :
    exchanged (exchanges.map .exchange) = exchanges := by
  rw [exchanged, List.filterMap_map]
  exact List.filterMap_some

@[simp] theorem grown_map_exchange (exchanges : List Exchange) :
    grown (exchanges.map .exchange) = .empty := by
  induction exchanges with
  | nil => rfl
  | cons exchange rest ih => exact ih

theorem LogTail.run_forwardAll_stillHost {content : ByteArray} {status : Option Int}
    {flushed : Except IoError Unit} (parts : List ByteArray) :
    (forwardAll parts).run (stillHost content status flushed) () = (.ok (), ()) := by
  induction parts with
  | nil => rfl
  | cons part rest ih => exact ih

/-- On that machine a pull moves on by what it reads. -/
theorem LogTail.run_pull_stillHost {content : ByteArray} {status : Option Int} {handle : Handle}
    {path : String} (here : handle.logPath = some path) :
    (pull handle).run (stillHost content status (.ok ())) () =
      ((.ok (), { handle with
        logOffset := handle.logOffset +
          (content.extract handle.logOffset (handle.logOffset + pullLimit)).size }), ()) := by
  have forwarded (bytes : ByteArray) :
      (forward bytes).run (stillHost content status (.ok ())) () = (.ok bytes.size, ()) := by
    rw [forward, run_bind, run_forwardAll_stillHost]
    rfl
  unfold pull
  split
  · rename_i nowhere
    rw [here] at nowhere
    cases nowhere
  · rw [run_bind]
    show (forward _ >>= _).run _ () = _
    rw [run_bind, forwarded]
    rfl

/-- What a process writes. -/
def fiveBytes : ByteArray := "step\n".toUTF8

end Still

end TrainingLauncher
