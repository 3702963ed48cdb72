/-
The directory in which the processes of a job meet. It is there whenever a process is spawned, and
for as long as one of them runs, if a process that is stopped by force ends and nobody but the
launcher removes the directory. When the job is over, the directory is gone.

* `World`, `Turn`, `Unfolds`: what there is between the exchanges of a job, and how it may change.
* `Unfolds.present`, `Unfolds.settled`: directories are kept, and settled children run no more.
* `Job.Inside`: what is done in a directory.
* `Job.Shelters`: what holds of the directory at a moment of a job.
* `Job.launch_shelters`: it holds at every moment of every job.
-/

import TrainingLauncher.Proofs.Inheritance

namespace TrainingLauncher

open Program Rehearsal

section Worlds

/-- What there is at a moment: the directories that exist and the children that run. -/
structure World where
  present : String → Prop
  running : Nat → Prop

/-- What an exchange, and whatever happens until the next one, may make of a world. This is what is
expected of the machine: a directory that was made is there, it can be removed, and nobody else
does that; a process that is stopped by force ends. -/
structure Turn (exchange : Exchange) (world later : World) : Prop where
  created : ∀ stem directory, exchange = ⟨.createRendezvous stem, .ok directory⟩ →
    later.present directory
  kept : ∀ directory, world.present directory → exchange.request ≠ .removeRendezvous directory →
    later.present directory
  removed : ∀ directory, exchange.request = .removeRendezvous directory → ¬later.present directory
  killed : ∀ child, exchange.request = .kill child → ¬later.running child
  /-- A child that has answered an exit code does not run. -/
  ended : ∀ child, exchange.Ends child → ¬later.running child
  /-- A child that does not run stays so until it is spawned. -/
  still : ∀ child, ¬world.running child → spawned? exchange ≠ some child → ¬later.running child

/-- How exchanges take one world to another. -/
inductive Unfolds : World → List Exchange → World → Prop
  | nil (world : World) : Unfolds world [] world
  | cons {exchange : Exchange} {rest : List Exchange} {world between later : World}
      (turn : Turn exchange world between) (unfolds : Unfolds between rest later) :
      Unfolds world (exchange :: rest) later

variable {first second exchanges : List Exchange} {world later : World} {directory : String}
  {child : Nat}

theorem unfolds_append : Unfolds world (first ++ second) later ↔
    ∃ between, Unfolds world first between ∧ Unfolds between second later := by
  induction first generalizing world with
  | nil =>
    refine ⟨fun unfolds => ⟨world, .nil world, unfolds⟩, ?_⟩
    rintro ⟨between, nothing, unfolds⟩
    cases nothing
    exact unfolds
  | cons exchange rest ih =>
    constructor
    · rintro (_ | ⟨turn, unfolds⟩)
      obtain ⟨between, one, other⟩ := ih.mp unfolds
      exact ⟨between, .cons turn one, other⟩
    · rintro ⟨between, (_ | ⟨turn, one⟩), other⟩
      exact .cons turn (ih.mpr ⟨between, one, other⟩)

/-- The request neither makes nor removes a directory to meet in. -/
def Request.LeavesRendezvous : Request → Prop
  | createRendezvous _ | removeRendezvous _ => False
  | _ => True

theorem Request.IsStarting.leavesRendezvous {request : Request} (starting : request.IsStarting) :
    request.LeavesRendezvous := by
  cases request <;>
    first | trivial | exact starting.elim id fun others => others.elim id fun none => none trivial

theorem Request.IsSupervising.leavesRendezvous {request : Request}
    (supervising : request.IsSupervising) : request.LeavesRendezvous := by
  cases request <;> first | trivial | exact supervising.elim id fun others => others.elim id nofun

/-- A directory stays until it is removed. -/
theorem Unfolds.present (unfolds : Unfolds world exchanges later) (there : world.present directory)
    (leaves : ∀ exchange ∈ exchanges, exchange.request.LeavesRendezvous) :
    later.present directory := by
  induction unfolds with
  | nil => exact there
  | cons turn _ ih =>
    obtain ⟨here, others⟩ := List.forall_mem_cons.mp leaves
    refine ih (turn.kept directory there fun same => ?_) others
    rw [same] at here
    exact here

theorem spawned_subset_cons (exchange : Exchange) (rest : List Exchange) :
    spawned rest ⊆ spawned (exchange :: rest) :=
  ((List.sublist_cons_self exchange rest).filterMap spawned?).subset

/-- A child that does not run stays so. -/
theorem Unfolds.still (unfolds : Unfolds world exchanges later) (idle : ¬world.running child)
    (unspawned : child ∉ spawned exchanges) : ¬later.running child := by
  induction unfolds with
  | nil => exact idle
  | @cons exchange rest _ _ _ turn _ ih =>
    have here : spawned? exchange ≠ some child := fun same =>
      unspawned (List.mem_filterMap.mpr ⟨exchange, List.mem_cons_self, same⟩)
    exact ih (turn.still child idle here) fun again =>
      unspawned (spawned_subset_cons exchange rest again)

/-- **A settled child runs no more.** -/
theorem Unfolds.settled (unfolds : Unfolds world exchanges later)
    (settled : Settled exchanges child) (unspawned : child ∉ spawned exchanges) :
    ¬later.running child := by
  obtain ⟨exchange, member, settles⟩ : ∃ exchange ∈ exchanges,
      exchange.Ends child ∨ exchange.request = .kill child := by
    rcases settled with ⟨exchange, member, ends⟩ | ⟨exchange, member, kills⟩
    · exact ⟨exchange, member, .inl ends⟩
    · exact ⟨exchange, member, .inr kills⟩
  obtain ⟨before, after, rfl⟩ := List.append_of_mem member
  obtain ⟨_, -, (_ | ⟨turn, afterwards⟩)⟩ := unfolds_append.mp unfolds
  refine afterwards.still (settles.elim (turn.ended child) (turn.killed child)) fun again => ?_
  rw [spawned_append] at unspawned
  exact unspawned (List.mem_append_right _ (spawned_subset_cons exchange after again))

/-- What becomes of a world in which only the launcher acts. -/
def World.turned (world : World) (exchange : Exchange) : World where
  present directory :=
    match exchange with
    | ⟨.createRendezvous _, .ok made⟩ => directory = made ∨ world.present directory
    | ⟨.removeRendezvous gone, _⟩ => directory ≠ gone ∧ world.present directory
    | _ => world.present directory
  running child :=
    match exchange with
    | ⟨.spawn other _ _ _, .ok _⟩ => child = other ∨ world.running child
    | ⟨.kill other, _⟩ | ⟨.poll other, .ok (some _)⟩ | ⟨.wait other, .ok _⟩ =>
      child ≠ other ∧ world.running child
    | _ => world.running child

theorem turn_turned (exchange : Exchange) (world : World) :
    Turn exchange world (world.turned exchange) where
  created stem directory same := by
    subst same
    exact .inl rfl
  kept directory there other := by
    obtain ⟨request, answer⟩ := exchange
    cases request with
    | createRendezvous => cases answer <;> first | exact there | exact .inr there
    | removeRendezvous gone => exact ⟨fun same => other (same ▸ rfl), there⟩
    | _ => exact there
  removed directory same := by
    obtain ⟨request, answer⟩ := exchange
    subst same
    exact fun still => still.1 rfl
  killed child same := by
    obtain ⟨request, answer⟩ := exchange
    subst same
    exact fun still => still.1 rfl
  ended child ends := by
    obtain ⟨code, rfl | rfl⟩ := ends <;> exact fun still => still.1 rfl
  still child idle other := by
    obtain ⟨request, answer⟩ := exchange
    cases request with
    | spawn =>
      cases answer with
      | error => exact idle
      | ok => exact fun runs => runs.elim (fun same => other (congrArg some same.symm)) idle
    | kill => exact fun runs => idle runs.2
    | poll =>
      rcases answer with error | status | code
      · exact idle
      · exact idle
      · exact fun runs => idle runs.2
    | wait =>
      cases answer with
      | error => exact idle
      | ok => exact fun runs => idle runs.2
    | _ => exact idle

/-- The world that such exchanges take a world to. -/
def World.following (world : World) (exchanges : List Exchange) : World :=
  exchanges.foldl World.turned world

/-- Whatever is said, there is a world that it takes a world to. -/
theorem unfolds_following (world : World) (exchanges : List Exchange) :
    Unfolds world exchanges (world.following exchanges) := by
  induction exchanges generalizing world with
  | nil => exact .nil world
  | cons exchange rest ih => exact .cons (turn_turned exchange world) (ih _)

end Worlds

namespace Job

section Control

variable {settles : Prop} {exchanges : List Exchange} {world later : World}

/-- **When a job that cares is over, nobody runs.** -/
theorem Cares.nobodyRuns (cares : Cares settles exchanges) (holds : settles)
    (unfolds : Unfolds world exchanges later) :
    ∀ child ∈ spawned exchanges, ¬later.running child := by
  intro child member
  obtain ⟨⟨request, answer⟩, inside, started⟩ := List.mem_filterMap.mp member
  cases request <;> try (cases started)
  rename_i number command environment output
  cases answer with
  | error error => cases started
  | ok pid =>
    obtain rfl := Option.some.inj started
    obtain ⟨before, after, rfl⟩ := List.append_of_mem inside
    obtain ⟨_, -, (_ | ⟨-, afterwards⟩)⟩ := unfolds_append.mp unfolds
    refine afterwards.settled (cares.settled holds rfl) fun again => ?_
    have distinct := cares.distinct
    rw [spawned_append] at distinct
    exact (List.nodup_cons.mp (List.nodup_append.mp distinct).2.1).1 again

end Control

section Inside

variable {config : LaunchConfig} {context : JobContext} {passes : Nat} {cluster : Cluster}
  {pod : Pod} {kind : JobKind} {directory : String} {exchanges : List Exchange}
  {result : Except Stop Unit}

/-- The variable that names the directory to meet in. -/
def rendezvousVariable : String := "PADDLE_GLOO_FS_PATH"

/-- What is done in a directory: none is made or removed, and whoever is spawned is told of it. -/
structure Inside (directory : String) (exchanges : List Exchange) : Prop where
  leaves : ∀ exchange ∈ exchanges, exchange.request.LeavesRendezvous
  tells : ∀ child command environment output answer,
    ⟨.spawn child command environment output, answer⟩ ∈ exchanges →
      environment[rendezvousVariable]? = some directory

/-- Every process is told of the directory. -/
theorem Tells.rendezvous {post : Post} {own : Environment}
    (tells : Tells config context cluster directory kind post own) :
    own[rendezvousVariable]? = some directory := by
  have named : (Environment.rendezvous directory)[rendezvousVariable]? = some directory := by
    simp [Environment.rendezvous, rendezvousVariable, Environment.getElem?_ofList]
  cases kind with
  | collective =>
    have other : (Environment.ofTrainer cluster post.process)[rendezvousVariable]? = none :=
      Environment.getElem?_ofList_of_notMem (by simp [rendezvousVariable])
    rw [tells, other, Option.none_or, named]
  | parameterServer =>
    rw [Environment.ServerJob.environment_common tells (by decide), Environment.ServerJob.common,
      Environment.getElem?_under]
    exact congrArg (Option.or · _) named

theorem startup_inside {outcome : Except LaunchError Unit × List Handle}
    (ran : Runs (startup config context cluster pod directory kind) exchanges outcome) :
    Inside directory exchanges where
  leaves exchange member := (ran.asked startup_isStarting exchange member).leavesRendezvous
  tells child command environment output answer spawns := by
    obtain ⟨post, own, -, tells, -, rfl⟩ := startup_spawns ran spawns
    rw [Environment.getElem?_under, tells.rendezvous, Option.some_or]

/-- A driver starts and attends to its processes inside the directory. -/
theorem perform_inside
    (ran : Runs (perform config context passes cluster pod kind directory).run exchanges result) :
    Inside directory exchanges := by
  obtain ⟨_, _, -, failed⟩ | ⟨starting, attending, handles, rfl, started, attended⟩ :=
    runs_perform ran
  · exact startup_inside failed
  have attends := attended.asked attend_isSupervising
  constructor
  · exact List.forall_mem_append.mpr ⟨(startup_inside started).leaves,
      fun exchange member => (attends exchange member).leavesRendezvous⟩
  · intro child command environment output answer member
    rcases List.mem_append.mp member with spawns | absurd
    · exact (startup_inside started).tells _ _ _ _ _ spawns
    · exact (attends _ absurd).spawnsNothing.elim

end Inside

section Phases

/-- A moment of a list that has a body between two ends and something before it: the moment is
before the first end, in the body, or in the last end. -/
theorem phases {told during tail before after : List α} {made : α}
    (same : before ++ after = told ++ made :: (during ++ tail)) :
    (∃ rest, told = before ++ rest ∧ after = rest ++ made :: (during ++ tail)) ∨
    (∃ early late, before = told ++ made :: early ∧ during = early ++ late ∧
      after = late ++ tail) ∨
    ∃ more, more ≠ [] ∧ before = told ++ made :: (during ++ more) ∧ tail = more ++ after := by
  obtain ⟨rest, rfl, rfl⟩ | ⟨rest, rfl, later⟩ := List.append_eq_append_iff.mp same
  · exact .inl ⟨rest, rfl, rfl⟩
  cases rest with
  | nil => exact .inl ⟨[], by rw [List.append_nil, List.append_nil], later.symm⟩
  | cons first early =>
    obtain ⟨rfl, within⟩ := List.cons.inj later
    obtain ⟨more, rfl, rfl⟩ | ⟨late, rfl, rfl⟩ := List.append_eq_append_iff.mp within
    · cases more with
      | nil => exact .inr (.inl ⟨during, [], by rw [List.append_nil], by rw [List.append_nil], rfl⟩)
      | cons next more =>
        exact .inr (.inr ⟨next :: more, List.cons_ne_nil _ _, rfl, rfl⟩)
    · exact .inr (.inl ⟨early, late, rfl, rfl, rfl⟩)

end Phases

section Shelter

variable {config : LaunchConfig} {context : JobContext} {passes : Nat} {cluster : Cluster}
  {pod : Pod} {kind : JobKind} {directory : String} {told during tail before after : List Exchange}
  {first now last : World} {exchanges : List Exchange} {result ended : Except Stop Unit}

/-- What holds of the directory to meet in at a moment of a job. If a process is to be spawned, it
is told of the directory, and the directory exists. As long as a process runs that was started, the
directory exists. If the directory is to be removed, no process runs that was started. -/
structure Shelters (directory : String) (before : List Exchange) (now : World)
    (after : List Exchange) : Prop where
  spawns : ∀ child command environment output answer,
    after.head? = some ⟨.spawn child command environment output, answer⟩ →
      environment[rendezvousVariable]? = some directory ∧ now.present directory
  runs : ∀ child ∈ spawned before, now.running child → now.present directory
  removes : ∀ reply, after.head? = some ⟨.removeRendezvous directory, reply⟩ →
    ∀ child ∈ spawned before, ¬now.running child

/-- The exchange in which the directory is made. -/
abbrev making (directory : String) : Exchange := ⟨.createRendezvous rendezvousStem, .ok directory⟩

/-- Until the directory is made, nothing is spawned. -/
theorem shelters_early {rest : List Exchange} (reports : Reports (before ++ rest)) :
    Shelters directory before now (rest ++ making directory :: (during ++ tail)) := by
  obtain ⟨early, late⟩ := List.forall_mem_append.mp reports
  have nobody : spawned before = [] := (Reports.idle early).spawned
  constructor
  · intro child command environment output answer here
    cases rest with
    | nil => cases here
    | cons next rest =>
      obtain rfl := Option.some.inj here
      exact (late _ List.mem_cons_self).elim
  · rw [nobody]
    exact fun _ none => by cases none
  · rw [nobody]
    exact fun _ _ _ none => by cases none

/-- While the body goes on, the directory exists. -/
theorem shelters_inside {early late : List Exchange}
    (inside : Inside directory (early ++ late))
    (unfolds : Unfolds first (told ++ making directory :: early) now)
    (quiet : Idle tail)
    (nobody : late = [] → tail ≠ [] →
      ∀ child ∈ spawned (told ++ making directory :: early), ¬now.running child) :
    Shelters directory (told ++ making directory :: early) now (late ++ tail) := by
  obtain ⟨_, -, (_ | ⟨turn, during⟩)⟩ := unfolds_append.mp unfolds
  have there : now.present directory := during.present (turn.created _ _ rfl)
    fun exchange member => inside.leaves exchange (List.mem_append_left _ member)
  constructor
  · intro child command environment output answer here
    refine ⟨?_, there⟩
    cases late with
    | nil => exact (quiet _ (List.mem_of_head? here)).elim
    | cons next late =>
      obtain rfl := Option.some.inj here
      exact inside.tells _ _ _ _ _ (List.mem_append_right _ List.mem_cons_self)
  · exact fun _ _ _ => there
  · intro reply here
    cases late with
    | nil =>
      refine nobody rfl fun none => ?_
      rw [none] at here
      cases here
    | cons next late =>
      obtain rfl := Option.some.inj here
      exact (inside.leaves _ (List.mem_append_right _ List.mem_cons_self)).elim

/-- Once the body of a job is finished, nobody runs who was started. -/
theorem nobodyRuns_after {more : List Exchange} (reports : Reports told)
    (persistent : 0 < context.watchdog.termination.retries) (finished : ended ≠ .error .unfinished)
    (ran : Runs (perform config context passes cluster pod kind directory).run during ended)
    (quiet : Idle more)
    (unfolds : Unfolds first (told ++ making directory :: (during ++ more)) now) :
    ∀ child ∈ spawned (told ++ making directory :: (during ++ more)), ¬now.running child := by
  have made : Idle [making directory] := fun exchange member =>
    List.mem_singleton.mp member ▸ trivial
  exact ((((perform_cares ran).before quiet).after made).after reports.idle).nobodyRuns
    ⟨persistent, finished⟩ unfolds

/-- At every moment of what happens in a directory, processes find shelter in it. -/
theorem within_shelters (reports : Reports told)
    (persistent : 0 < context.watchdog.termination.retries)
    (ran : Runs (perform config context passes cluster pod kind directory).run during ended)
    (quiet : Idle tail) (finished : tail ≠ [] → ended ≠ .error .unfinished)
    (split : before ++ after = told ++ making directory :: (during ++ tail))
    (unfolds : Unfolds first before now) : Shelters directory before now after := by
  rcases phases split with
    ⟨rest, rfl, rfl⟩ | ⟨early, late, rfl, rfl, rfl⟩ | ⟨more, some, rfl, rfl⟩
  · exact shelters_early reports
  · refine shelters_inside (perform_inside ran) unfolds quiet ?_
    rintro rfl some
    rw [List.append_nil] at ran
    rw [← List.append_nil early] at unfolds ⊢
    exact nobodyRuns_after reports persistent (finished some) ran idle_nil unfolds
  · obtain ⟨here, rest⟩ := List.forall_mem_append.mp quiet
    have gone := nobodyRuns_after reports persistent
      (finished (List.append_ne_nil_of_left_ne_nil some _)) ran here unfolds
    refine ⟨fun child command environment output answer next => ?_,
      fun child member running => (gone child member running).elim, fun _ _ => gone⟩
    exact (rest _ (List.mem_of_head? next)).elim

/-- **The directory to meet in lives as long as the processes do.** Whatever becomes of a job that a
driver runs, and however long it has run, if terminations have a kill round: either no directory was
made, and nothing was to be spawned; or there is one directory, and at every moment of the job,
whatever the world has come to by then, processes find shelter in it. When the job is over, the
directory does not exist any more. -/
theorem launch_shelters (driven : IsDriven config context.node)
    (persistent : 0 < context.watchdog.termination.retries)
    (ran : Runs (launch config context passes).run exchanges result) :
    (attempts exchanges = [] ∧ ∀ directory, making directory ∉ exchanges) ∨
    ∃ directory, making directory ∈ exchanges ∧
      ∀ first before now after last, exchanges = before ++ after →
        Unfolds first before now → Unfolds now after last →
        Shelters directory before now after ∧
          (result ≠ .error .unfinished → ¬last.present directory) := by
  obtain ⟨told, rest, rfl, reports, ⟨error, -, rfl, -⟩ | ⟨cluster, index, -, within⟩⟩ :=
    runs_launch driven ran
  · rw [List.append_nil]
    exact .inl ⟨reports.idle.attempts, fun directory member => reports _ member⟩
  obtain ⟨error, rfl, -⟩ | ⟨directory, during, tail, ended, rfl, inside, -, closing⟩ :=
    runs_within within
  · refine .inl ⟨?_, fun directory member => ?_⟩
    · rw [attempts_append, reports.idle.attempts]
      rfl
    · rcases List.mem_append.mp member with member | member
      · exact reports _ member
      · cases List.mem_singleton.mp member
  obtain ⟨quiet, finished⟩ : Idle tail ∧ (tail ≠ [] → ended ≠ .error .unfinished) := by
    rcases closing with ⟨-, -, rfl⟩ | ⟨finished, removed, rfl⟩
    · exact ⟨idle_nil, fun absurd => (absurd rfl).elim⟩
    · exact ⟨fun exchange member => List.mem_singleton.mp member ▸ trivial, fun _ => finished⟩
  refine .inr ⟨directory, List.mem_append_right _ List.mem_cons_self, ?_⟩
  intro first before now after last split earlier later
  refine ⟨within_shelters reports persistent inside quiet finished split.symm earlier, ?_⟩
  intro ends
  obtain ⟨-, unfinished, -⟩ | ⟨-, removed, rfl⟩ := closing
  · exact (ends unfinished).elim
  · -- the removal is the last exchange of all
    have whole := unfolds_append.mpr ⟨now, earlier, later⟩
    rw [← split, ← List.cons_append, ← List.append_assoc] at whole
    obtain ⟨_, -, (_ | ⟨turn, nothing⟩)⟩ := unfolds_append.mp whole
    cases nothing
    exact turn.removed directory rfl

/-- A world without directories and processes. -/
def emptyWorld : World := ⟨fun _ => False, fun _ => False⟩

/-- In the job with two trainers of which the first fails, the second is stopped by force. -/
theorem launch_shelters_failingJob : ∃ directory, making directory ∈ failingJob ∧
    (∀ before after, failingJob = before ++ after →
      Shelters directory before (emptyWorld.following before) after) ∧
    ¬(emptyWorld.following failingJob).present directory := by
  have started : attempts failingJob = [0, 1] := by decide +kernel
  have ended : ((launch twoTrainers bareContext 1).run.run Stage.host failingMachine).1 =
      .error (.failed (.roleProcessFailure [⟨.trainer, 0, 3⟩] 2)) := rfl
  rcases launch_shelters (fun other => by cases other) (by decide)
      (runs_transcript Stage.host (launch twoTrainers bareContext 1).run failingMachine) with
    ⟨nothing, -⟩ | ⟨directory, made, moments⟩
  · cases started.symm.trans nothing
  refine ⟨directory, made, fun before after split => ?_, ?_⟩
  · exact (moments emptyWorld before _ after _ split (unfolds_following _ _)
      (unfolds_following _ _)).1
  · refine (moments emptyWorld failingJob _ [] _ (List.append_nil _).symm (unfolds_following _ _)
      (.nil _)).2 ?_
    rw [ended]
    exact fun same => by cases same

end Shelter

end Job

end TrainingLauncher
