import Mathlib.Data.List.Induction
import TapeRecall.Log.Host

/-!
# The two latches of a process

A process settles two things once and for all: the level that the environment selects, and the log.
Different steps settle the one and the other, some settle both, and the environment may change at
any time in between. What a process has settled is said here of the list of its steps alone, without
a look at its state: of each latch it is the first step of a kind that counts (`firstOf`), and what
was so before that step.

The state of a process remembers of its steps this much and no more (`Remembers`); every step keeps
that, and so it is with every run from a fresh process. What a step answers and what the log prints
is then read off the steps before it.

Of the library of the log nothing is used but what its documentation promises. From the promises it
follows what a subscriber with the filter of a level prints
(`Library.Documented.prints_subscriber`), and that the library keeps the first subscriber that was
set up (`Library.KeepsLog`).
-/

set_option autoImplicit false

namespace TapeRecall.Log

/-- The level that a variable of this value selects; a variable that is not set has none. -/
def Level.ofValue : Option ByteArray → Level
  | some bytes => .ofBytes bytes
  | none => .off

theorem Level.eq_name_of_parse {s : String} {l : Level} (h : parse s = l) (hl : l ≠ .off) :
    s = l.name := by
  cases l <;> grind [parse, name]

/-- Each level but silence is selected by its name and by nothing else. Hence every other value, and
no value, selects silence. -/
theorem Level.ofValue_eq_iff {l : Level} (hl : l ≠ .off) (value : Option ByteArray) :
    ofValue value = l ↔ value = some l.name.toByteArray := by
  constructor
  · intro hvalue
    rcases value with _ | bytes
    · exact absurd hvalue.symm hl
    · rw [ofValue, ofBytes] at hvalue
      split at hvalue
      · rename_i s hs
        have hbytes : s.toByteArray = bytes := by
          unfold String.fromUTF8? at hs
          split at hs
          · exact Option.some.inj hs ▸ rfl
          · cases hs
        rw [← hbytes, eq_name_of_parse hvalue hl]
      · exact absurd hvalue.symm hl
  · rintro rfl
    rw [ofValue, ofBytes_toByteArray, parse_name]

/-! ## What the library keeps and prints -/

namespace Library

/-- What the library keeps is the subscriber that was set up at a level, or as yet none. -/
def KeepsLog (lib : Library) : Option Level → lib.Global → Prop
  | none, g => g = lib.fresh
  | some l, g => lib.tryInit (lib.subscriber ⟨l⟩) lib.fresh = some g

/-- What the library keeps after somebody tried to set up a log. -/
def setUp (lib : Library) (s : Settings) (g : lib.Global) : lib.Global :=
  (lib.tryInit (lib.subscriber s) g).getD g

namespace Documented

variable {lib : Library} {level : Option Level} {g : lib.Global}

/-- The filter of a level does in the library what the level says. -/
theorem prints_subscriber (documented : lib.Documented) (l : Level) (e : Event) :
    lib.prints (lib.subscriber ⟨l⟩) e =
      if l.enables e.verbosity.level then [lib.render e] else [] := by
  rw [subscriber]
  rcases hbound : l.bound with _ | most
  -- silence is handed on as the filter that is off
  · have hno : ¬ l.enables e.verbosity.level = true := by
      rw [Level.enables_level_iff, hbound]
      rintro ⟨most, hmost, -⟩
      cases hmost
    rw [if_neg hno, documented.silent]
  -- any other filter compares the same two ranks as the level does
  · rcases Nat.lt_or_ge most.rank e.verbosity.rank with hmore | hless
    · have hno : ¬ l.enables e.verbosity.level = true := by
        rw [Level.enables_level_iff, hbound]
        rintro ⟨_, ⟨⟩, hle⟩
        exact Nat.not_le.2 hmore hle
      rw [if_neg hno, documented.stopped _ _ _ hmore]
    · have hyes := (l.enables_level_iff e.verbosity).2 ⟨most, hbound, hless⟩
      rw [if_pos hyes, documented.passed _ _ _ hless, documented.line]

/-- Somebody who tries to set up a log succeeds as long as there is none. -/
theorem isSome_tryInit (documented : lib.Documented) (keeps : lib.KeepsLog level g)
    (s : lib.Subscriber) : (lib.tryInit s g).isSome = level.isNone := by
  cases level with
  | none =>
      rw [show g = lib.fresh from keeps, documented.first]
      rfl
  | some l =>
      rw [documented.once _ _ _ keeps]
      rfl

/-- The first log stays. -/
theorem keepsLog_setUp (documented : lib.Documented) (keeps : lib.KeepsLog level g)
    (s : Settings) : lib.KeepsLog (level.or (some s.level)) (lib.setUp s g) := by
  cases level with
  | none =>
      obtain rfl : g = lib.fresh := keeps
      obtain ⟨h, hset⟩ := Option.isSome_iff_exists.1 (documented.first (lib.subscriber s))
      rw [setUp, hset]
      exact hset
  | some l =>
      rw [setUp, documented.once _ _ _ keeps]
      exact keeps

/-- An event of the process is printed if the level of the log shows it. -/
theorem emit_of_keepsLog (documented : lib.Documented) (keeps : lib.KeepsLog level g) (n : Notice) :
    lib.emit g n.event =
      level.elim [] fun l => if l.enables n.level then [lib.render n.event] else [] := by
  cases level with
  | none =>
      rw [show g = lib.fresh from keeps]
      exact documented.unset n.event
  | some l =>
      rw [documented.taken _ _ _ keeps, documented.prints_subscriber]
      rfl

/-- So of many events those are printed that the level shows, in their order. -/
theorem flatMap_emit (documented : lib.Documented) (keeps : lib.KeepsLog level g)
    (ns : List Notice) :
    (ns.flatMap fun n => lib.emit g n.event) = level.elim [] fun l =>
      (ns.filter fun n => l.enables n.level).map fun n => lib.render n.event := by
  simp only [documented.emit_of_keepsLog keeps]
  cases level with
  | none => exact List.flatMap_eq_nil_iff.2 fun _ _ => rfl
  | some l =>
      induction ns with
      | nil => rfl
      | cons n ns ih =>
          rw [List.flatMap_cons, ih]
          by_cases h : l.enables n.level <;> simp [h]

end Documented

end Library

namespace Host

/-! ## What the steps of a process say of it -/

/-- The step asks for the level that the environment selected. -/
def Step.selects : Step → Bool
  | .selected | .settings | .installSelected | .start => true
  | _ => false

/-- The step sets up a log, if there is none. -/
def Step.installs : Step → Bool
  | .install _ | .installSelected | .start => true
  | _ => false

/-- What the step makes of a variable: its new value or no value, if it is about that variable. -/
def Step.assigns? (name : String) : Step → Option (Option ByteArray)
  | .setVariable other value => if other = name then some (some value) else none
  | .unsetVariable other => if other = name then some none else none
  | _ => none

/-- The value of a variable after some steps: what the last of them that is about it made of it. -/
def valueAfter (environment : Table String ByteArray) (name : String) (steps : List Step) :
    Option ByteArray :=
  steps.foldl (fun value s => (s.assigns? name).getD value) (environment.get? name)

/-- The first step of a kind, with the steps before it. -/
def firstOf (kind : Step → Bool) (steps : List Step) : Option (List Step × Step) :=
  (steps.find? kind).map fun s => (steps.takeWhile fun s => !kind s, s)

/-- The level that the environment selected when it was first asked for. -/
def settledLevel (environment : Table String ByteArray) (steps : List Step) : Option Level :=
  (firstOf Step.selects steps).map fun f => .ofValue (valueAfter environment selector f.1)

/-- The level of the log: the one of the settings that it was set up with, or else the one that the
environment selected. -/
def logLevel (environment : Table String ByteArray) (steps : List Step) : Option Level :=
  (firstOf Step.installs steps).bind fun f => match f.2 with
    | .install settings => some settings.level
    | _ => settledLevel environment steps

/-- The notices of a step that comes after others. -/
def emitted (past : List Step) : Step → List Notice
  | .errand e => e.run.trace.notices
  | .start => if past.any Step.installs then [.logKept] else []
  | _ => []

/-! ## Steps that settle and steps that come later -/

theorem firstOf_cons (kind : Step → Bool) (s : Step) (rest : List Step) :
    firstOf kind (s :: rest) =
      if kind s then some ([], s) else (firstOf kind rest).map fun f => (s :: f.1, f.2) := by
  unfold firstOf
  by_cases h : kind s <;> simp [h, Function.comp_def]

theorem firstOf_append (kind : Step → Bool) (steps later : List Step) :
    firstOf kind (steps ++ later) =
      (firstOf kind steps).or ((firstOf kind later).map fun f => (steps ++ f.1, f.2)) := by
  induction steps with
  | nil =>
      have hnil : firstOf kind [] = none := rfl
      rw [hnil, Option.none_or]
      simp
  | cons s rest ih =>
      rw [List.cons_append, firstOf_cons, firstOf_cons, ih]
      by_cases h : kind s
      · rw [if_pos h, if_pos h]
        rfl
      · rw [if_neg h, if_neg h]
        rcases firstOf kind rest with _ | f <;> simp [Function.comp_def]

theorem isSome_firstOf (kind : Step → Bool) (steps : List Step) :
    (firstOf kind steps).isSome = steps.any kind := by
  rw [firstOf, Option.isSome_map, List.isSome_find?]

/-- Nothing that comes later changes which step was the first. -/
theorem firstOf_append_of_any {kind : Step → Bool} {steps : List Step} (h : steps.any kind = true)
    (later : List Step) : firstOf kind (steps ++ later) = firstOf kind steps := by
  rw [← isSome_firstOf] at h
  rw [firstOf_append, Option.or_of_isSome h]

theorem firstOf_concat_of_not_any {kind : Step → Bool} {steps : List Step}
    (h : steps.any kind = false) (s : Step) :
    firstOf kind (steps ++ [s]) = if kind s then some (steps, s) else none := by
  rw [← isSome_firstOf, Option.isSome_eq_false_iff, Option.isNone_iff_eq_none] at h
  rw [firstOf_append, h, firstOf_cons]
  by_cases hs : kind s <;> simp [hs, firstOf]

variable {environment : Table String ByteArray} {past : List Step} {s : Step}

theorem valueAfter_concat (environment : Table String ByteArray) (name : String)
    (past : List Step) (s : Step) :
    valueAfter environment name (past ++ [s]) =
      (s.assigns? name).getD (valueAfter environment name past) := by
  rw [valueAfter, List.foldl_append]
  rfl

theorem isSome_settledLevel (environment : Table String ByteArray) (past : List Step) :
    (settledLevel environment past).isSome = past.any Step.selects := by
  rw [settledLevel, Option.isSome_map, isSome_firstOf]

theorem settledLevel_eq_none (h : past.any Step.selects = false) :
    settledLevel environment past = none := by
  rw [← isSome_settledLevel environment, Option.isSome_eq_false_iff] at h
  exact Option.isNone_iff_eq_none.1 h

/-- A level that is settled stays, whatever the environment becomes. -/
theorem settledLevel_append (h : past.any Step.selects = true) (later : List Step) :
    settledLevel environment (past ++ later) = settledLevel environment past := by
  rw [settledLevel, firstOf_append_of_any h]
  rfl

theorem settledLevel_concat_of_not_any (h : past.any Step.selects = false) (s : Step) :
    settledLevel environment (past ++ [s]) =
      if s.selects then some (.ofValue (valueAfter environment selector past)) else none := by
  rw [settledLevel, firstOf_concat_of_not_any h]
  by_cases hs : s.selects <;> simp [hs]

/-- The first step that sets up a log either has settings of its own or asks for the level that the
environment selected. -/
theorem exists_settings_or_any_selects {f : List Step × Step}
    (h : firstOf Step.installs past = some f) :
    (∃ settings, f.2 = .install settings) ∨ past.any Step.selects = true := by
  obtain ⟨s, hs, rfl⟩ := Option.map_eq_some_iff.1 h
  have hmem := List.mem_of_find?_eq_some hs
  have hinstalls := List.find?_some hs
  cases s with
  | install settings => exact .inl ⟨settings, rfl⟩
  | installSelected | start => exact .inr (List.any_eq_true.2 ⟨_, hmem, rfl⟩)
  | _ => cases hinstalls

theorem isSome_logLevel (environment : Table String ByteArray) (past : List Step) :
    (logLevel environment past).isSome = past.any Step.installs := by
  rw [← isSome_firstOf, logLevel]
  rcases hf : firstOf Step.installs past with _ | f
  · rfl
  · rw [Option.bind_some]
    rcases exists_settings_or_any_selects hf with ⟨settings, hs⟩ | hselects
    · rw [hs]
      rfl
    · split
      · rfl
      · rw [isSome_settledLevel, hselects]
        rfl

theorem logLevel_eq_none (h : past.any Step.installs = false) :
    logLevel environment past = none := by
  rw [← isSome_logLevel environment, Option.isSome_eq_false_iff] at h
  exact Option.isNone_iff_eq_none.1 h

/-- A log that is set up stays as it is. -/
theorem logLevel_append (h : past.any Step.installs = true) (later : List Step) :
    logLevel environment (past ++ later) = logLevel environment past := by
  rw [logLevel, firstOf_append_of_any h, logLevel]
  rcases hf : firstOf Step.installs past with _ | f
  · rfl
  · rw [Option.bind_some, Option.bind_some]
    rcases exists_settings_or_any_selects hf with ⟨settings, hs⟩ | hselects
    · rw [hs]
    · rw [settledLevel_append hselects]

theorem logLevel_concat_of_not_any (h : past.any Step.installs = false) (s : Step) :
    logLevel environment (past ++ [s]) = if s.installs then (match s with
      | .install settings => some settings.level
      | _ => settledLevel environment (past ++ [s])) else none := by
  rw [logLevel, firstOf_concat_of_not_any h]
  by_cases hs : s.installs <;> simp [hs]

/-! ## What one step does to a process -/

/-- The variables after a step. -/
def Step.assign (environment : Table String ByteArray) : Step → Table String ByteArray
  | .setVariable name value => environment.put name value
  | .unsetVariable name => environment.erase name
  | _ => environment

/-- The settings of the log that a step tries to set up where the environment selected this
level. -/
def Step.settings? (selected : Level) : Step → Option Settings
  | .install own => some own
  | .installSelected | .start => some ⟨selected⟩
  | _ => none

theorem get?_assign (environment : Table String ByteArray) (s : Step) (name : String) :
    (s.assign environment).get? name = (s.assigns? name).getD (environment.get? name) := by
  cases s with
  | setVariable other value =>
      rw [Step.assign, Step.assigns?]
      by_cases hother : other = name
      · rw [if_pos hother, hother, Table.get?_put_self, Option.getD_some]
      · rw [if_neg hother, Table.get?_put_of_ne _ fun e => hother e.symm, Option.getD_none]
  | unsetVariable other =>
      rw [Step.assign, Step.assigns?]
      by_cases hother : other = name
      · rw [if_pos hother, hother, Table.get?_erase_self, Option.getD_some]
      · rw [if_neg hother, Table.get?_erase_of_ne _ fun e => hother e.symm, Option.getD_none]
  | _ => rfl

theorem Step.settings?_eq_none (h : s.installs = false) (selected : Level) :
    s.settings? selected = none := by
  cases s with
  | install | installSelected | start => cases h
  | _ => rfl

variable {lib : Library} {h : Host lib}

theorem levelOf_eq_ofValue (h : Host lib) (name : String) :
    h.levelOf name = .ofValue (h.environment.get? name) := by
  unfold levelOf
  rcases h.environment.get? name with _ | bytes <;> rfl

theorem fst_select (h : Host lib) : h.select.1 = h.selected.getD (h.levelOf selector) := by
  unfold select
  rcases h.selected with _ | l <;> rfl

/-- Asking changes nothing but the latch. -/
theorem snd_select (h : Host lib) : h.select.2 = { h with selected := some h.select.1 } := by
  obtain ⟨environment, selected, log⟩ := h
  rcases selected with _ | l <;> rfl

theorem attempt_apply (h : Host lib) (settings : Settings) :
    h.attempt settings =
      ⟨if (lib.tryInit (lib.subscriber settings) h.log).isSome then .done
        else .refused .alreadySetUp, [], { h with log := lib.setUp settings h.log }⟩ := by
  unfold attempt install Library.setUp
  rcases lib.tryInit (lib.subscriber settings) h.log with _ | log <;> rfl

theorem step_installSelected (h : Host lib) :
    h.step .installSelected =
      ⟨if (lib.tryInit (lib.subscriber ⟨h.select.1⟩) h.log).isSome then .done
        else .refused .alreadySetUp, [],
        { h with selected := some h.select.1, log := lib.setUp ⟨h.select.1⟩ h.log }⟩ := by
  rw [step, snd_select, attempt_apply]

theorem step_start (h : Host lib) :
    h.step .start =
      ⟨.done, if (lib.tryInit (lib.subscriber ⟨h.select.1⟩) h.log).isSome then [] else [.logKept],
        { h with selected := some h.select.1, log := lib.setUp ⟨h.select.1⟩ h.log }⟩ := by
  rw [step, snd_select, install, Library.setUp]
  rcases lib.tryInit (lib.subscriber ⟨h.select.1⟩) h.log with _ | log <;> rfl

/-- The step lemma: of each part of a process what a step makes of it. -/
theorem after_step (h : Host lib) (s : Step) :
    (h.step s).after = {
      environment := s.assign h.environment
      selected := if s.selects then some h.select.1 else h.selected
      log := (s.settings? h.select.1).elim h.log fun settings => lib.setUp settings h.log } := by
  cases s with
  | install settings =>
      rw [step, attempt_apply]
      rfl
  | installSelected =>
      rw [step_installSelected]
      rfl
  | start =>
      rw [step_start]
      rfl
  | selected | settings =>
      rw [step, snd_select, Step.settings?_eq_none rfl]
      rfl
  | setVariable | unsetVariable | levelOf | errand =>
      rw [Step.settings?_eq_none rfl]
      rfl

/-! ## What the state remembers -/

/-- The state of a process has of its steps the values of the variables and the two latches. -/
structure Remembers (environment : Table String ByteArray) (past : List Step) (h : Host lib) :
    Prop where
  values : ∀ name, h.environment.get? name = valueAfter environment name past
  selected : h.selected = settledLevel environment past
  log : lib.KeepsLog (logLevel environment past) h.log

/-- The level that a step asks for is the one that is settled then. -/
theorem Remembers.settled (hr : Remembers environment past h) (hs : s.selects = true) :
    settledLevel environment (past ++ [s]) = some h.select.1 := by
  rw [fst_select, hr.selected, levelOf_eq_ofValue, hr.values]
  -- either this step is the first that asks, or the level was settled before it
  rcases hany : past.any Step.selects with _ | _
  · rw [settledLevel_concat_of_not_any hany, if_pos hs, settledLevel_eq_none hany, Option.getD_none]
  · rw [settledLevel_append hany]
    rw [← isSome_settledLevel environment] at hany
    obtain ⟨l, hl⟩ := Option.isSome_iff_exists.1 hany
    rw [hl, Option.getD_some]

/-- What a step makes of the two latches is what the steps say. -/
theorem Remembers.selected_concat (hr : Remembers environment past h) (s : Step) :
    (if s.selects then some h.select.1 else h.selected) =
      settledLevel environment (past ++ [s]) := by
  by_cases hs : s.selects = true
  · rw [if_pos hs, hr.settled hs]
  · rw [if_neg hs, hr.selected]
    rcases hany : past.any Step.selects with _ | _
    · rw [settledLevel_concat_of_not_any hany, if_neg hs, settledLevel_eq_none hany]
    · rw [settledLevel_append hany]

theorem Remembers.logLevel_concat (hr : Remembers environment past h) (s : Step) :
    logLevel environment (past ++ [s]) =
      (logLevel environment past).or ((s.settings? h.select.1).map Settings.level) := by
  rcases hany : past.any Step.installs with _ | _
  · rw [logLevel_eq_none hany, Option.none_or, logLevel_concat_of_not_any hany]
    -- only these two need the selected level, and they settle it themselves if nobody did before
    cases s with
    | installSelected | start => exact hr.settled rfl
    | _ => rfl
  · rw [logLevel_append hany]
    rw [← isSome_logLevel environment] at hany
    exact (Option.or_of_isSome hany).symm

theorem Remembers.log_concat (documented : lib.Documented) (hr : Remembers environment past h)
    (s : Step) : lib.KeepsLog (logLevel environment (past ++ [s]))
      ((s.settings? h.select.1).elim h.log fun settings => lib.setUp settings h.log) := by
  rw [hr.logLevel_concat]
  rcases s.settings? h.select.1 with _ | settings
  · rw [Option.map_none, Option.or_none]
    exact hr.log
  · exact documented.keepsLog_setUp hr.log settings

/-- Every step keeps what the state remembers. -/
theorem Remembers.concat (documented : lib.Documented) (hr : Remembers environment past h)
    (s : Step) : Remembers environment (past ++ [s]) (h.step s).after := by
  rw [after_step]
  refine ⟨?_, hr.selected_concat s, hr.log_concat documented s⟩
  intro name
  rw [valueAfter_concat, ← hr.values]
  exact get?_assign h.environment s name

/-- The process after some steps. -/
def afterAll (h : Host lib) (steps : List Step) : Host lib :=
  steps.foldl (fun h s => (h.step s).after) h

/-- From one step to a run. -/
theorem remembers_afterAll (documented : lib.Documented) (environment : Table String ByteArray)
    (past : List Step) :
    Remembers environment past (afterAll ({ environment } : Host lib) past) := by
  induction past using List.reverseRecOn with
  | nil => exact ⟨fun _ => rfl, rfl, rfl⟩
  | append_singleton past s ih =>
      have hafter : afterAll ({ environment } : Host lib) (past ++ [s]) =
          ((afterAll { environment } past).step s).after := List.foldl_append
      rw [hafter]
      exact ih.concat documented s

/-- The report on a step in a run is that on the step of the process that the steps before it
left. -/
theorem getElem?_run (h : Host lib) (past : List Step) (s : Step) (rest : List Step) :
    (h.run (past ++ s :: rest))[past.length]? = some ((h.afterAll past).step s) := by
  induction past generalizing h with
  | nil => rfl
  | cons t past ih =>
      rw [List.cons_append, run, List.length_cons, List.getElem?_cons_succ]
      exact ih _

/-! ## The two latches -/

/-- A level that steps of a kind settle: it is there once there was such a step, and stays. -/
structure IsLatch (kind : Step → Bool) (level : List Step → Option Level) : Prop where
  settled : ∀ past, (level past).isSome = past.any kind
  stays : ∀ past later, past.any kind = true → level (past ++ later) = level past

/-- What the steps before it say of the report on a step. -/
structure Report.Settles (environment : Table String ByteArray) (past : List Step) (s : Step)
    (r : Report lib) : Prop where
  selected : r.after.selected = settledLevel environment (past ++ [s])
  log : lib.KeepsLog (logLevel environment (past ++ [s])) r.after.log
  /-- Who asks for the level is told the one that is settled. -/
  asked : s = .selected ∨ s = .settings →
    ∃ l, settledLevel environment (past ++ [s]) = some l ∧ r.result = .level l
  /-- Who asks for a variable is told of its value just now. -/
  present : ∀ name, s = .levelOf name →
    r.result = .level (.ofValue (valueAfter environment name past))
  first : past.any Step.installs = false → s.installs = true → r.result = .done
  later : past.any Step.installs = true →
    (∃ settings, s = .install settings) ∨ s = .installSelected → r.result = .refused .alreadySetUp
  start : s = .start → r.result = .done
  notices : r.notices = emitted past s
  /-- The log prints what its level shows, and without a log nothing is printed. -/
  lines : r.lines = (logLevel environment (past ++ [s])).elim [] fun l =>
    ((emitted past s).filter fun n => l.enables n.level).map fun n => lib.render n.event

/-- Whether a step can set up a log depends on whether there was one that did. -/
theorem Remembers.isSome_tryInit (documented : lib.Documented) (hr : Remembers environment past h)
    (s : lib.Subscriber) : (lib.tryInit s h.log).isSome = !past.any Step.installs := by
  rw [documented.isSome_tryInit hr.log, ← Option.not_isSome, isSome_logLevel]

theorem Remembers.notices_step (documented : lib.Documented) (hr : Remembers environment past h)
    (s : Step) : (h.step s).notices = emitted past s := by
  cases s with
  | install settings =>
      rw [step, attempt_apply]
      rfl
  | installSelected =>
      rw [step_installSelected]
      rfl
  | start =>
      rw [step_start, emitted, hr.isSome_tryInit documented]
      cases past.any Step.installs <;> rfl
  | _ => rfl

theorem Remembers.settles (documented : lib.Documented) (hr : Remembers environment past h)
    (s : Step) : (h.step s).Settles environment past s where
  selected := (hr.concat documented s).selected
  log := (hr.concat documented s).log
  asked := by
    rintro (rfl | rfl)
    · exact ⟨h.select.1, hr.settled rfl, rfl⟩
    · exact ⟨h.select.1, hr.settled rfl, rfl⟩
  present := by
    rintro name rfl
    rw [← hr.values, ← levelOf_eq_ofValue]
    rfl
  first := by
    intro hfirst hs
    cases s with
    | install settings =>
        rw [step, attempt_apply, hr.isSome_tryInit documented, hfirst]
        rfl
    | installSelected =>
        rw [step_installSelected, hr.isSome_tryInit documented, hfirst]
        rfl
    | start => rw [step_start]
    | _ => cases hs
  later := by
    intro hlater
    rintro (⟨settings, rfl⟩ | rfl)
    · rw [step, attempt_apply, hr.isSome_tryInit documented, hlater]
      rfl
    · rw [step_installSelected, hr.isSome_tryInit documented, hlater]
      rfl
  start := by
    rintro rfl
    rw [step_start]
  notices := hr.notices_step documented s
  lines := by
    rw [Report.lines, documented.flatMap_emit (hr.concat documented s).log,
      hr.notices_step documented]

/-- A step that does not ask for the level that the environment selected leaves the latch alone and
does the same whatever the latch is. -/
theorem step_with_selected (hs : s.selects = false) (h : Host lib) (latch : Option Level) :
    ({ h with selected := latch } : Host lib).step s =
      ⟨(h.step s).result, (h.step s).notices, { (h.step s).after with selected := latch }⟩ := by
  cases s with
  | install settings => rw [step, step, attempt_apply, attempt_apply]
  | selected | settings | installSelected | start => cases hs
  | _ => rfl

/-- **The two latches.** With any library that keeps what is promised of it, in every run of a fresh
process, the level that the environment selected is the one at the first step that asked for it, and
the log is the one of the first step that set one up; each stays as it is, whatever the environment
becomes, and every report is what the steps before it say. What is printed in a step is what it
reports and the level of the log shows, line by line. A step that does not ask for the selected
level neither settles it nor depends on it. -/
theorem two_latches {lib : Library} (documented : lib.Documented)
    (environment : Table String ByteArray) :
    (∀ past s rest, ∃ r,
      (run ({ environment } : Host lib) (past ++ s :: rest))[past.length]? = some r ∧
      r.Settles environment past s) ∧
    IsLatch Step.selects (settledLevel environment) ∧
    IsLatch Step.installs (logLevel environment) ∧
    (∀ l, l ≠ .off → ∀ value, Level.ofValue value = l ↔ value = some l.name.toByteArray) ∧
    ∀ s : Step, s.selects = false → ∀ (h : Host lib) (latch : Option Level),
      ({ h with selected := latch } : Host lib).step s =
        ⟨(h.step s).result, (h.step s).notices, { (h.step s).after with selected := latch }⟩ := by
  refine ⟨?_, ?_, ?_, fun l hl => Level.ofValue_eq_iff hl, fun s hs => step_with_selected hs⟩
  · intro past s rest
    exact ⟨_, getElem?_run { environment } past s rest,
      (remembers_afterAll documented environment past).settles documented s⟩
  · exact ⟨isSome_settledLevel environment, fun past later h => settledLevel_append h later⟩
  · exact ⟨isSome_logLevel environment, fun past later h => logLevel_append h later⟩

/-- A process sets up a log of its own. Then it is started after the variable was set, which does
nothing but settle the level, so that setting the variable once more is too late. -/
def chattySteps : List Step :=
  [.install ⟨.debug⟩, .setVariable selector "WARN".toByteArray, .start,
    .setVariable selector "TRACE".toByteArray]

/-- An errand that finds a directory. -/
def directoryErrand : Errand where
  file := "/d"
  attributes := ⟨.directory, [.absent]⟩
  answers := {}
  mechanism := "ntlm"
  principal := "p"
  keytab := "/k"

/-- The errand is told at the level of the log, of which the settled one is another; what it says
on entry and on exit is not shown. -/
theorem chattySteps_printed :
    Library.plain.Documented ∧ ∃ r : Report .plain,
      (run {} (chattySteps ++ [.errand directoryErrand]))[chattySteps.length]? = some r ∧
      r.after.selected = some .warn ∧
      r.lines =
        ["DEBUG unknown mechanism, falling back to unix requested=\"ntlm\"",
         "DEBUG auth mechanism=unix principal=\"p\" keytab=\"/k\"",
         "DEBUG query transition file=/d from=unresolved to=scanning",
         "INFO this seems to be a directory object_type=Directory",
         "WARN error querying file file=\"/d\" error=object is a directory",
         "DEBUG query transition file=/d from=scanning to=errored"] := by
  obtain ⟨hrun, -⟩ := two_latches Library.plain_documented .empty
  obtain ⟨r, hr, hsettles⟩ := hrun chattySteps (.errand directoryErrand) []
  refine ⟨Library.plain_documented, r, hr, hsettles.selected, ?_⟩
  rw [hsettles.lines]
  decide

end Host

end TapeRecall.Log
