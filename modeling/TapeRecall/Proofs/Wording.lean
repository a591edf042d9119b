import Mathlib.Data.List.Infix
import Mathlib.Logic.Function.Basic
import TapeRecall.Fault

/-!
# Reading messages back

A log shows a fault by its message alone. This file is about whether that is enough to know which
fault it was, with the status, the tier or the phases that it carries, and it is: every message can
be read back, so no two faults share one.

A message is a heading and what follows it, and it can be read back because no heading of its kind
is the beginning of another one (`Wording.clear`), so that at most one of them fits a text. What
follows may be a message in turn. A status is read by its code alone: no symbolic name has a digit
or a sign in it, so the digits and the sign of the written form are those of the code, whether or
not there is a name (`Status.filter_inNumeral_text`).

Two faults do have the same message, one of a scan and one of a recall, that there is no session.
In a query they are told apart by the heading before them.
-/

set_option autoImplicit false

namespace TapeRecall

/-! ## Headings -/

/-- What a text says after a heading, if it begins with that. -/
def Text.after? (heading text : String) : Option String :=
  (heading.toList.isPrefixOf? text.toList).map String.ofList

theorem Text.after?_append (heading rest : String) :
    after? heading (heading ++ rest) = some rest := by
  have hprefix : heading.toList.isPrefixOf? (heading ++ rest).toList = some rest.toList := by
    rw [List.isPrefixOf?_eq_some_iff_append_eq, String.toList_append]
  rw [after?, hprefix, Option.map_some, String.ofList_toList]

/-- Neither of the two headings is the beginning of the other one. -/
def Text.Apart (g h : String) : Prop :=
  ¬ g.toList <+: h.toList ∧ ¬ h.toList <+: g.toList

instance (g h : String) : Decidable (Text.Apart g h) :=
  inferInstanceAs (Decidable (_ ∧ _))

/-- No text begins with both of them. -/
theorem Text.Apart.after?_eq_none {g h : String} (apart : Apart g h) (rest : String) :
    after? g (h ++ rest) = none := by
  rw [after?, Option.map_eq_none_iff]
  by_contra hsome
  obtain ⟨other, hother⟩ := Option.ne_none_iff_exists'.1 hsome
  have hg : g.toList <+: (h ++ rest).toList :=
    ⟨other, List.isPrefixOf?_eq_some_iff_append_eq.1 hother⟩
  have hh : h.toList <+: (h ++ rest).toList := ⟨rest.toList, String.toList_append.symm⟩
  rcases List.prefix_or_prefix_of_prefix hg hh with hbegins | hbegins
  · exact apart.1 hbegins
  · exact apart.2 hbegins

/-! ## Wordings -/

/-- How the messages of one kind are worded: their headings, each with a way to read what comes
after it. -/
structure Wording (α : Type) where
  entries : List (String × (String → Option α))
  /-- A text begins with one of the headings at most. -/
  clear : (entries.map Prod.fst).Pairwise Text.Apart := by decide

namespace Wording

variable {α : Type}

/-- A heading after which nothing comes says it all. -/
def only (a : α) (rest : String) : Option α :=
  if rest = "" then some a else none

/-- Reads a message by the heading that it begins with. -/
def read? (w : Wording α) (message : String) : Option α :=
  w.entries.findSome? fun e => (Text.after? e.1 message).bind e.2

/-- The heading that a message was written with is the one by which it is read. -/
theorem read?_append (w : Wording α) {heading rest : String} {reader : String → Option α} {a : α}
    (place : Nat) (entry : w.entries[place]? = some (heading, reader))
    (reads : reader rest = some a) : w.read? (heading ++ rest) = some a := by
  obtain ⟨before, later, hentries⟩ := List.append_of_mem (List.mem_of_getElem? entry)
  have hclear := w.clear
  rw [hentries, List.map_append, List.pairwise_append] at hclear
  obtain ⟨-, -, hacross⟩ := hclear
  -- the headings before it do not fit
  have hbefore : (before.findSome? fun e =>
      (Text.after? e.1 (heading ++ rest)).bind e.2) = none := by
    rw [List.findSome?_eq_none_iff]
    intro e he
    have hapart := hacross e.1 (List.mem_map_of_mem he) heading List.mem_cons_self
    rw [hapart.after?_eq_none, Option.bind_none]
  have hreads : (Text.after? heading (heading ++ rest)).bind reader = some a := by
    rw [Text.after?_append, Option.bind_some, reads]
  rw [read?, hentries, List.findSome?_append, hbefore, Option.none_or, List.findSome?_cons]
  dsimp only
  rw [hreads]

theorem read?_of_only (w : Wording α) {heading : String} {a : α} (place : Nat)
    (entry : w.entries[place]? = some (heading, only a)) : w.read? heading = some a := by
  have hread : w.read? (heading ++ "") = some a := w.read?_append place entry rfl
  rwa [String.append_empty] at hread

end Wording

/-- Where every message can be read back, no two things have the same one. -/
theorem eq_iff_of_read? {α : Type} {read? : String → Option α} {message : α → String}
    (reads : ∀ a, read? (message a) = some a) (a b : α) : message a = message b ↔ a = b := by
  constructor
  · intro h
    have hsome : some a = some b := by rw [← reads a, h, reads b]
    exact Option.some.inj hsome
  · rintro rfl
    rfl

/-! ## Numerals -/

/-- Reads a number, written in base ten. -/
def Text.natural (text : List Char) : Nat :=
  Nat.ofDigitChars 10 text 0

theorem Text.natural_repr (n : Nat) : natural n.repr.toList = n := by
  rw [natural, Nat.toList_repr, Nat.ofDigitChars_ten_toDigits]

theorem Text.isDigit_of_mem_repr {n : Nat} {c : Char} (h : c ∈ n.repr.toList) :
    c.isDigit = true := by
  rw [Nat.toList_repr] at h
  exact Nat.isDigit_of_mem_toDigits (by decide) (by decide) h

/-- Reads a number that has a sign in front if it is negative. -/
def Text.integer (text : List Char) : Int :=
  if text.head? = some '-' then -natural text.tail else natural text

theorem Text.integer_repr (i : Int) : integer i.repr.toList = i := by
  rw [Int.repr_eq_if]
  split
  case isTrue hnonneg =>
    -- a sign would be one of the digits
    have hunsigned : i.toNat.repr.toList.head? ≠ some '-' := by
      intro hsign
      have hdigit := isDigit_of_mem_repr (List.mem_of_head? hsign)
      exact absurd hdigit (by decide)
    rw [integer, if_neg hunsigned, natural_repr, Int.toNat_of_nonneg hnonneg]
  case isFalse hneg =>
    have hsigned : ("-" ++ (-i).toNat.repr).toList = '-' :: (-i).toNat.repr.toList := by
      rw [String.toList_append]
      rfl
    rw [hsigned, integer, List.head?_cons, if_pos rfl, List.tail_cons, natural_repr]
    omega

/-- The character can stand in a written number. -/
def Text.inNumeral (c : Char) : Bool := c.isDigit || c == '-'

theorem Text.inNumeral_of_mem_repr {i : Int} {c : Char} (h : c ∈ i.repr.toList) :
    inNumeral c = true := by
  rw [Int.repr_eq_if] at h
  split at h
  · rw [inNumeral, isDigit_of_mem_repr h, Bool.true_or]
  · rw [String.toList_append, List.mem_append] at h
    rcases h with hsign | hdigits
    · rw [List.mem_singleton.1 hsign]
      rfl
    · rw [inNumeral, isDigit_of_mem_repr hdigits, Bool.true_or]

/-! ## Statuses -/

namespace Status

theorem exists_of_name?_eq_some {s : Status} {name : String} (h : s.name? = some name) :
    ∃ d ∈ documented, d.name = name := by
  obtain ⟨d, hd, hname⟩ := Option.map_eq_some_iff.1 h
  exact ⟨d, List.mem_of_find?_eq_some hd, hname⟩

/-- The names are in letters only. -/
theorem not_inNumeral_of_name? {s : Status} {name : String} (h : s.name? = some name) :
    ∀ c ∈ name.toList, ¬ Text.inNumeral c = true := by
  obtain ⟨d, hd, rfl⟩ := exists_of_name?_eq_some h
  have hletters : (documented.all fun d => d.name.toList.all fun c => !Text.inNumeral c) = true :=
    rfl
  intro c hc
  have hletter := List.all_eq_true.1 (List.all_eq_true.1 hletters d hd) c hc
  simpa using hletter

/-- Each documented code has its own name, for no code is documented twice. -/
theorem name?_of_mem_documented : ∀ d ∈ documented, (Status.mk d.code).name? = some d.name := by
  simp only [documented, List.forall_mem_cons]
  decide

theorem name?_eq_none {s : Status} (h : ∀ d ∈ documented, d.code ≠ s.code) : s.name? = none := by
  rw [name?, Option.map_eq_none_iff, entry?, List.find?_eq_none]
  intro d hd hcode
  exact h d hd (beq_iff_eq.1 hcode)

/-- What there is of digits and signs in the written form is the code, with a name or without. -/
theorem filter_inNumeral_text (s : Status) :
    s.text.toList.filter Text.inNumeral = s.code.toInt.repr.toList := by
  have hcode : s.code.toInt.repr.toList.filter Text.inNumeral = s.code.toInt.repr.toList :=
    List.filter_eq_self.2 fun c hc => Text.inNumeral_of_mem_repr hc
  unfold text
  rcases hname : s.name? with _ | name
  · exact hcode
  · -- the name and the brackets around the code drop out
    have hempty : name.toList.filter Text.inNumeral = [] :=
      List.filter_eq_nil_iff.2 (not_inNumeral_of_name? hname)
    have hopen : " (".toList.filter Text.inNumeral = [] := by decide
    have hshut : ")".toList.filter Text.inNumeral = [] := by decide
    simp only [String.toList_append, List.filter_append, hempty, hopen, hshut, hcode,
      List.nil_append, List.append_nil]

/-- Reads a status by its code. -/
def ofText (text : String) : Status :=
  ⟨.ofInt (Text.integer (text.toList.filter Text.inNumeral))⟩

theorem ofText_text (s : Status) : ofText s.text = s := by
  rw [ofText, filter_inNumeral_text, Text.integer_repr, Int32.ofInt_toInt]

end Status

/-! ## Faults -/

namespace SessionFault

def wording : Wording SessionFault where
  entries :=
    [("authentication failed: ", fun t => some (.authentication (Status.ofText t))),
     ("no active session", Wording.only .noSession),
     ("a session is already active", Wording.only .alreadyActive),
     ("failed to release credentials: ", fun t => some (.release (Status.ofText t)))]

theorem read?_message (fault : SessionFault) : wording.read? fault.message = some fault := by
  cases fault with
  | authentication status =>
      exact wording.read?_append 0 rfl (by rw [Status.ofText_text])
  | noSession => exact wording.read?_of_only 1 rfl
  | alreadyActive => exact wording.read?_of_only 2 rfl
  | release status =>
      exact wording.read?_append 3 rfl (by rw [Status.ofText_text])

end SessionFault

namespace ScanFault

def wording : Wording ScanFault where
  entries :=
    [("object is a directory", Wording.only .isDirectory),
     ("no segments exist for this file", Wording.only .noSegments),
     ("file is empty", Wording.only .emptyFile),
     ("attribute query failed: ", fun t => some (.queryRefused (Status.ofText t))),
     ("no usable volume descriptor at tier ",
       fun t => some (.missingVolume (.ofNat (Text.natural t.toList)))),
     ("no active session", Wording.only .noSession)]

theorem read?_message (fault : ScanFault) : wording.read? fault.message = some fault := by
  cases fault with
  | isDirectory => exact wording.read?_of_only 0 rfl
  | noSegments => exact wording.read?_of_only 1 rfl
  | emptyFile => exact wording.read?_of_only 2 rfl
  | queryRefused status =>
      exact wording.read?_append 3 rfl (by rw [Status.ofText_text])
  | missingVolume tier =>
      exact wording.read?_append 4 rfl (by rw [Text.natural_repr, UInt32.ofNat_toNat])
  | noSession => exact wording.read?_of_only 5 rfl

end ScanFault

namespace RecallFault

def wording : Wording RecallFault where
  entries :=
    [("open failed: ", fun t => some (.openRefused (Status.ofText t))),
     ("recall failed: ", fun t => some (.recallRefused (Status.ofText t))),
     ("close failed: ", fun t => some (.closeRefused (Status.ofText t))),
     ("no active session", Wording.only .noSession)]

theorem read?_message (fault : RecallFault) : wording.read? fault.message = some fault := by
  cases fault with
  | openRefused status =>
      exact wording.read?_append 0 rfl (by rw [Status.ofText_text])
  | recallRefused status =>
      exact wording.read?_append 1 rfl (by rw [Status.ofText_text])
  | closeRefused status =>
      exact wording.read?_append 2 rfl (by rw [Status.ofText_text])
  | noSession => exact wording.read?_of_only 3 rfl

end RecallFault

theorem Phase.ofName?_name (p : Phase) : ofName? p.name = some p := by
  cases p <;> rfl

namespace QueryFault

/-- What a step was refused for: the phase that the query was in is a heading of its own. -/
def transitions : Wording QueryFault where
  entries := Phase.all.map fun phase =>
    (phase.name ++ " to ", fun t => (Phase.ofName? t).map (.outOfOrder phase))

theorem read?_transition (phase wanted : Phase) :
    transitions.read? (phase.name ++ " to " ++ wanted.name) = some (.outOfOrder phase wanted) := by
  obtain ⟨place, hplace⟩ := List.mem_iff_getElem?.1 phase.mem_all
  have hentry : transitions.entries[place]? =
      some (phase.name ++ " to ", fun t => (Phase.ofName? t).map (.outOfOrder phase)) := by
    rw [transitions, List.getElem?_map, hplace, Option.map_some]
  exact transitions.read?_append place hentry (by rw [Phase.ofName?_name, Option.map_some])

def wording : Wording QueryFault where
  entries :=
    [("LocateError: ", fun t => (ScanFault.wording.read? t).map .ofScan),
     ("StageError: ", fun t => (RecallFault.wording.read? t).map .ofRecall),
     ("invalid transition from ", transitions.read?)]

theorem read?_message (fault : QueryFault) : wording.read? fault.message = some fault := by
  cases fault with
  | ofScan fault =>
      exact wording.read?_append 0 rfl (by rw [fault.read?_message, Option.map_some])
  | ofRecall fault =>
      exact wording.read?_append 1 rfl (by rw [fault.read?_message, Option.map_some])
  | outOfOrder phase wanted =>
      have hread : wording.read? ("invalid transition from " ++
          (phase.name ++ " to " ++ wanted.name)) = some (.outOfOrder phase wanted) :=
        wording.read?_append 2 rfl (read?_transition phase wanted)
      simp only [← String.append_assoc] at hread
      exact hread

end QueryFault

/-- **A message tells which fault it was.** No two faults of a query have the same message, and no
two faults of a session; wrapped faults, statuses, tiers and phases make a difference as well. The
statuses themselves are never written alike, of which the documented ones are written with a name
and the code, and the others with the code alone. -/
theorem messages_tell_faults_apart :
    (∀ e f : QueryFault, e.message = f.message ↔ e = f) ∧
    (∀ e f : SessionFault, e.message = f.message ↔ e = f) ∧
    (∀ s t : Status, s.text = t.text ↔ s = t) ∧
    (∀ d ∈ Status.documented,
      (Status.mk d.code).text = d.name ++ " (" ++ d.code.toInt.repr ++ ")") ∧
    ∀ s : Status, (∀ d ∈ Status.documented, d.code ≠ s.code) → s.text = s.code.toInt.repr := by
  refine ⟨eq_iff_of_read? QueryFault.read?_message, eq_iff_of_read? SessionFault.read?_message,
    fun s t => (Function.LeftInverse.injective Status.ofText_text).eq_iff, ?_, ?_⟩
  · intro d hd
    rw [Status.text, Status.name?_of_mem_documented d hd]
  · intro s hcodes
    rw [Status.text, Status.name?_eq_none hcodes]

end TapeRecall
