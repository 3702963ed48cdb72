/-
What a process is started with. Its variables are those of its post, and beneath them the ones that
the launcher has found in its own environment, without the proxy settings. Its command is the same
for all processes of the job.

* `Text.InWords`, `Text.words_eq_iff`: the words of a text, and what the text makes of them.
* `Job.Tells`: what the process at a post is told.
* `LaunchConfig.command_words`: the words of the command.
* `Job.startup_inherits`: the environment and the command of every process of a driver.
-/

import TrainingLauncher.Proofs.Spawning
import TrainingLauncher.Proofs.Topology.Contract

namespace TrainingLauncher

open Program

namespace Text

section Words

/-- Characters are made of these words, in their order: blanks and words take turns. A word is a
longest run of characters that are not blank, so a blank follows it or the text ends there. -/
inductive InWords : List Char → List String → Prop
  | blank {gap : List Char} (blanks : ∀ char ∈ gap, isBlank char = true) : InWords gap []
  | word {gap word rest : List Char} {words : List String}
      (blanks : ∀ char ∈ gap, isBlank char = true) (present : word ≠ [])
      (visible : ∀ char ∈ word, isBlank char = false)
      (ends : ∀ char ∈ rest.head?, isBlank char = true) (others : InWords rest words) :
      InWords (gap ++ (word ++ rest)) (String.ofList word :: words)

/-- The words among pieces. -/
def wordsOf (pieces : List (List Char)) : List String :=
  (pieces.filter (!·.isEmpty)).map String.ofList

/-- Blanks before the first word do not count. -/
theorem InWords.prepend {gap chars : List Char} {words : List String}
    (blanks : ∀ char ∈ gap, isBlank char = true) (made : InWords chars words) :
    InWords (gap ++ chars) words := by
  cases made with
  | blank others => exact .blank (List.forall_mem_append.mpr ⟨blanks, others⟩)
  | word others present visible ends rest =>
    rw [← List.append_assoc]
    exact .word (List.forall_mem_append.mpr ⟨blanks, others⟩) present visible ends rest

/-- A piece is a word unless it is empty. -/
theorem InWords.piece {gap piece rest : List Char} {others : List (List Char)}
    (blanks : ∀ char ∈ gap, isBlank char = true) (visible : ∀ char ∈ piece, isBlank char = false)
    (ends : ∀ char ∈ rest.head?, isBlank char = true) (made : InWords rest (wordsOf others)) :
    InWords (gap ++ (piece ++ rest)) (wordsOf (piece :: others)) := by
  cases piece with
  | nil => exact made.prepend blanks
  | cons char chars => exact .word blanks (List.cons_ne_nil _ _) visible ends made

/-- The first piece ends before a blank or with the text; the others make up what follows it. -/
theorem exists_inWords_rest (chars : List Char) : ∃ piece others rest,
    pieces isBlank chars = piece :: others ∧ chars = piece ++ rest ∧
      (∀ char ∈ piece, isBlank char = false) ∧ (∀ char ∈ rest.head?, isBlank char = true) ∧
      InWords rest (wordsOf others) := by
  induction chars with
  | nil =>
    exact ⟨[], [], [], rfl, rfl, List.forall_mem_nil _, fun _ first => (nomatch first),
      .blank (List.forall_mem_nil _)⟩
  | cons char chars ih =>
    obtain ⟨piece, others, rest, split, rfl, visible, ends, made⟩ := ih
    rw [pieces, split]
    cases shown : isBlank char with
    | true =>
      refine ⟨[], piece :: others, char :: (piece ++ rest), rfl, rfl, List.forall_mem_nil _, ?_, ?_⟩
      · rintro _ ⟨⟩
        exact shown
      · have blanks : ∀ other ∈ [char], isBlank other = true := List.forall_mem_singleton.mpr shown
        exact InWords.piece blanks visible ends made
    | false =>
      exact ⟨char :: piece, others, rest, rfl, rfl, List.forall_mem_cons.mpr ⟨shown, visible⟩, ends,
        made⟩

theorem inWords_words (text : String) : InWords text.toList (words text) := by
  obtain ⟨piece, others, rest, split, whole, visible, ends, made⟩ := exists_inWords_rest text.toList
  rw [words, split, whole]
  exact InWords.piece (List.forall_mem_nil _) visible ends made

/-- Blanks in front do not change the words of pieces. -/
theorem wordsOf_pieces_append {gap : List Char} (blanks : ∀ char ∈ gap, isBlank char = true)
    (chars : List Char) :
    wordsOf (pieces isBlank (gap ++ chars)) = wordsOf (pieces isBlank chars) := by
  induction gap with
  | nil => rfl
  | cons char gap ih =>
    obtain ⟨first, others⟩ := List.forall_mem_cons.mp blanks
    rw [List.cons_append, pieces, if_pos first]
    exact ih others

/-- A run without a blank becomes part of the first piece. -/
theorem pieces_append {word : List Char} (visible : ∀ char ∈ word, isBlank char = false)
    {rest piece : List Char} {others : List (List Char)}
    (split : pieces isBlank rest = piece :: others) :
    pieces isBlank (word ++ rest) = (word ++ piece) :: others := by
  induction word with
  | nil => exact split
  | cons char word ih =>
    obtain ⟨first, later⟩ := List.forall_mem_cons.mp visible
    rw [List.cons_append, pieces, if_neg (Bool.eq_false_iff.mp first), ih later]
    rfl

/-- Where a blank comes first, or nothing, the first piece is empty. -/
theorem head_pieces {rest : List Char} (ends : ∀ char ∈ rest.head?, isBlank char = true) :
    ∃ others, pieces isBlank rest = [] :: others := by
  cases rest with
  | nil => exact ⟨[], rfl⟩
  | cons char rest => exact ⟨_, if_pos (ends char rfl)⟩

theorem InWords.eq_words {chars : List Char} {words : List String} (made : InWords chars words) :
    wordsOf (pieces isBlank chars) = words := by
  induction made with
  | @blank gap blanks =>
    have none := wordsOf_pieces_append blanks []
    rwa [List.append_nil] at none
  | @word gap word rest words blanks present visible ends _ ih =>
    obtain ⟨others, split⟩ := head_pieces ends
    rw [wordsOf_pieces_append blanks, pieces_append visible split, List.append_nil, ← ih, split]
    cases word with
    | nil => exact (present rfl).elim
    | cons char chars => rfl

/-- **The words of a text** are those that it is made of. -/
theorem words_eq_iff {text : String} {list : List String} :
    words text = list ↔ InWords text.toList list :=
  ⟨fun same => same ▸ inWords_words text, InWords.eq_words⟩

/-- A blank text has no words. -/
theorem words_of_blank {text : String} (blank : ∀ char ∈ text.toList, isBlank char = true) :
    words text = [] :=
  words_eq_iff.mpr (.blank blank)

end Words

end Text

section Command

open Text

/-- **The words of the command**: those of the interpreter, the script and its arguments. -/
theorem LaunchConfig.command_words (config : LaunchConfig) :
    config.command.words =
      words (config.interpreter.getD "") ++ config.trainingScript :: config.trainingScriptArgs := by
  rw [command]
  split
  · rename_i none
    rw [none]
    rfl
  · rename_i some
    rw [some]
    rfl

end Command

namespace Job

open Rehearsal

section Inheritance

variable {config : LaunchConfig} {context : JobContext} {cluster : Cluster} {pod : Pod}
  {directory : String} {kind : JobKind} {exchanges : List Exchange}
  {outcome : Except LaunchError Unit × List Handle}

/-- What the process at a post is told. A trainer of a collective job has the variables of its role
on top of those of the directory to meet in; the processes of a parameter-server job have the
variables that the job has for their role. -/
def Tells (config : LaunchConfig) (context : JobContext) (cluster : Cluster) (directory : String)
    (kind : JobKind) (post : Post) (own : Environment) : Prop :=
  match kind with
  | .collective => ∀ name : String, own[name]? =
      (Environment.ofTrainer cluster post.process)[name]?.or
        (Environment.rendezvous directory)[name]?
  | .parameterServer =>
    (serverJob config context cluster directory).environment post.role post.process post.slot =
      .ok own

theorem tells_settings {post : Post} {own : Environment}
    (known : settings config context cluster directory kind post = .ok own) :
    Tells config context cluster directory kind post own := by
  cases kind with
  | collective =>
    rw [settings] at known
    rw [← Except.ok.inj known]
    exact Environment.getElem?_under _ _
  | parameterServer => exact known

/-- No process is told of a proxy. -/
theorem Tells.withoutProxies {post : Post} {own : Environment}
    (tells : Tells config context cluster directory kind post own) :
    ∀ name ∈ Environment.proxyVariables, own[name]? = none := by
  intro name member
  cases kind with
  | collective =>
    rw [tells name, Environment.ofTrainer, Environment.rendezvous]
    rw [Environment.getElem?_ofList_of_notMem, Environment.getElem?_ofList_of_notMem,
      Option.none_or]
    · revert name; simp [Environment.proxyVariables]
    · revert name; simp [Environment.proxyVariables]
  | parameterServer =>
    have shared : name ∉ Environment.ServerJob.ownVariables := by revert name; decide
    rw [Environment.ServerJob.environment_common tells shared, Environment.ServerJob.common,
      Environment.getElem?_under, Environment.rendezvous,
      Environment.getElem?_ofList_of_notMem, Environment.getElem?_ofList_of_notMem, Option.none_or]
    · revert name; simp [Environment.proxyVariables]
    · revert name; simp [Environment.proxyVariables]

/-- Whatever a driver's start spawns is the process at one of the posts of the pod, and the number
of the child tells at which. -/
theorem startup_spawns
    (ran : Runs (startup config context cluster pod directory kind) exchanges outcome)
    {child : Nat} {command : Command} {environment : Environment} {output : Output}
    {answer : Except IoError Nat}
    (spawns : ⟨.spawn child command environment output, answer⟩ ∈ exchanges) :
    ∃ post own, (pod.posts (roles kind))[child]? = some post ∧
      Tells config context cluster directory kind post own ∧ command = config.command ∧
      environment = context.base.withoutProxies.under own := by
  obtain ⟨place, task, own, here, known, request⟩ :=
    (startup_courses ran).performs.orders spawns id
  obtain ⟨rfl, rfl, rfl, -⟩ := Request.spawn.inj request
  obtain ⟨manned, settled⟩ := agenda_getElem? here
  rw [known] at settled
  refine ⟨task.post, own, ?_, tells_settings settled.symm, rfl, rfl⟩
  rw [← manned]
  exact congrArg _ (Nat.zero_add place)

/-- **The environment and the command of every process.** Whatever a driver spawns, with success or
without, is the process at one of the posts of its pod, and the number of the child tells at which.
A variable has the value that the process is told, or else the one in the environment of the
launcher, unless it is a proxy setting. So no process sees a proxy setting, and every other variable
that the process is not told itself is inherited unchanged. The command consists of the words that
the interpreter is made of, of which a blank interpreter has none, and of the script with its
arguments. -/
theorem startup_inherits
    (ran : Runs (startup config context cluster pod directory kind) exchanges outcome)
    {child : Nat} {command : Command} {environment : Environment} {output : Output}
    {answer : Except IoError Nat}
    (spawns : ⟨.spawn child command environment output, answer⟩ ∈ exchanges) :
    (∃ post own, (pod.posts (roles kind))[child]? = some post ∧
      Tells config context cluster directory kind post own ∧
      (∀ name, environment[name]? = own[name]?.or
        (if name ∈ Environment.proxyVariables then none else context.base[name]?)) ∧
      (∀ name ∈ Environment.proxyVariables, environment[name]? = none) ∧
      ∀ name ∉ Environment.proxyVariables, own[name]? = none →
        environment[name]? = context.base[name]?) ∧
    command.words =
      Text.words (config.interpreter.getD "") ++
        config.trainingScript :: config.trainingScriptArgs ∧
    (∀ spelled, Text.InWords (config.interpreter.getD "").toList spelled ↔
      command.words = spelled ++ config.trainingScript :: config.trainingScriptArgs) ∧
    ((∀ interpreter ∈ config.interpreter, ∀ char ∈ interpreter.toList,
      Text.isBlank char = true) →
        command.words = config.trainingScript :: config.trainingScriptArgs) := by
  obtain ⟨post, own, manned, tells, rfl, rfl⟩ := startup_spawns ran spawns
  have words := config.command_words
  have layered (name : String) : (context.base.withoutProxies.under own)[name]? =
      own[name]?.or (if name ∈ Environment.proxyVariables then none else context.base[name]?) := by
    rw [Environment.getElem?_under, Environment.getElem?_withoutProxies]
  refine ⟨⟨post, own, manned, tells, layered, fun name proxy => ?_, fun name other none => ?_⟩,
    words, fun spelled => ?_, fun blank => ?_⟩
  · rw [layered, tells.withoutProxies name proxy, if_pos proxy, Option.none_or]
  · rw [layered, none, if_neg other, Option.none_or]
  · rw [words, ← Text.words_eq_iff, List.append_left_inj]
  · have wordless : Text.words (config.interpreter.getD "") = [] := by
      refine Text.words_of_blank fun char member => ?_
      cases given : config.interpreter with
      | none => rw [given] at member; cases member
      | some interpreter => rw [given] at member; exact blank interpreter given char member
    rw [← List.nil_append (_ :: _), ← wordless]
    exact words

/-- A launcher that sits behind a proxy. -/
def proxiedContext : JobContext :=
  { bareContext with base := .ofList [("http_proxy", "http://gate:3128"), ("PATH", "/usr/bin")] }

/-- A script that an interpreter with an option runs. -/
def unbufferedJob : LaunchConfig :=
  { LaunchConfig.ofScript "train.py" with
    interpreter := some " python3  -u"
    trainingScriptArgs := ["--epochs", "3 4"] }

/-- What is said when the second node starts its trainer there. -/
def proxiedStart : List Exchange :=
  (startup unbufferedJob proxiedContext LaunchConfig.twoNodesCluster
    (podAt LaunchConfig.twoNodesCluster 1) "/rendezvous" .collective).transcript
      Stage.host patientMachine

theorem startup_inherits_proxiedStart : ∃ command environment output answer,
    ⟨.spawn 0 command environment output, answer⟩ ∈ proxiedStart ∧
      environment["http_proxy"]? = none ∧ environment["PATH"]? = some "/usr/bin" ∧
      environment["PADDLE_TRAINER_ID"]? = some "1" ∧
      command.words = ["python3", "-u", "train.py", "--epochs", "3 4"] := by
  obtain ⟨command, environment, output, answer, spawns⟩ : ∃ command environment output answer,
      (⟨.spawn 0 command environment output, answer⟩ : Exchange) ∈ proxiedStart :=
    ⟨_, _, _, _, List.mem_of_getElem? (show proxiedStart[1]? = some _ from rfl)⟩
  obtain ⟨⟨post, own, manned, tells, layered, proxyless, -⟩, -, words, -⟩ :=
    startup_inherits (runs_transcript Stage.host _ patientMachine) spawns
  obtain rfl := Option.some.inj manned
  have characters : (unbufferedJob.interpreter.getD "").toList =
      [' '] ++ (['p', 'y', 't', 'h', 'o', 'n', '3'] ++ ([' ', ' '] ++ (['-', 'u'] ++ []))) := rfl
  have blank : Text.isBlank ' ' = true := rfl
  have spelled : Text.InWords (unbufferedJob.interpreter.getD "").toList ["python3", "-u"] := by
    rw [characters]
    refine .word (by simp [blank]) (by decide) (by simp; decide) (by simp [blank]) ?_
    exact .word (by simp [blank]) (by decide) (by simp; decide) (by simp) (.blank (by simp))
  refine ⟨_, _, _, _, spawns, proxyless _ (by decide), ?_, ?_, (words _).mp spelled⟩
  · rw [layered, tells]
    simp [Environment.ofTrainer, Environment.rendezvous, Environment.getElem?_ofList,
      List.lookup_cons, Environment.proxyVariables, proxiedContext]
  · rw [layered, tells]
    simp [Environment.ofTrainer, Environment.getElem?_ofList, List.lookup_cons]
    rfl

end Inheritance

end Job

end TrainingLauncher
