import Mathlib.Data.List.Infix
import AndroidMessenger.Library.Utf8

namespace AndroidMessenger.Library.JsonScan

/-! A text of JSON objects, byte by byte: how many braces are open, and what is quoted.
Of the grammar this has only what every reader of JSON has to keep to. -/

def openBrace : UInt8 := 123

def closeBrace : UInt8 := 125

def newline : UInt8 := 10

def quotationMark : UInt8 := 34

def reverseSolidus : UInt8 := 92

/-- The words and numbers that stand outside strings have no `y`. -/
def letterY : UInt8 := 121

/-- Space, or a byte of a byte order mark. -/
def isBlank (byte : UInt8) : Bool :=
  byte = 32 ∨ byte = 9 ∨ byte = 10 ∨ byte = 13 ∨ byte = 239 ∨ byte = 187 ∨ byte = 191

/-- The byte means nothing outside strings. -/
def IsPlain (byte : UInt8) : Prop :=
  byte ≠ quotationMark ∧ byte ≠ openBrace ∧ byte ≠ closeBrace ∧
    byte ≠ reverseSolidus ∧ byte ≠ letterY

theorem isPlain_of_isBlank {byte : UInt8} (blank : isBlank byte = true) : IsPlain byte := by
  simp only [isBlank, decide_eq_true_eq] at blank
  unfold IsPlain
  rcases blank with rfl | rfl | rfl | rfl | rfl | rfl | rfl <;> decide

theorem eq_or_isPlain (byte : UInt8) :
    byte = quotationMark ∨ byte = openBrace ∨ byte = closeBrace ∨
      (byte = reverseSolidus ∨ byte = letterY) ∨ IsPlain byte := by
  unfold IsPlain
  tauto

/-- Where the scanner stands.  Inside `depth` there are `depth + 1` open braces. -/
inductive Mode where
  | between
  | inside (depth : Nat)
  | quoted (depth : Nat)
  | escaped (depth : Nat)
  | rejected
  deriving DecidableEq

namespace Mode

def step : Mode → UInt8 → Mode
  | .between, byte =>
      if isBlank byte then .between
      else if byte = openBrace then .inside 0
      else .rejected
  | .inside depth, byte =>
      if byte = quotationMark then .quoted depth
      else if byte = openBrace then .inside (depth + 1)
      else if byte = closeBrace then
        match depth with
        | 0 => .between
        | depth + 1 => .inside depth
      else if byte = reverseSolidus ∨ byte = letterY then .rejected
      else .inside depth
  | .quoted depth, byte =>
      if byte = quotationMark then .inside depth
      else if byte = reverseSolidus then .escaped depth
      else .quoted depth
  | .escaped depth, _ => .quoted depth
  | .rejected, _ => .rejected

def run (mode : Mode) (text : Bytes) : Mode :=
  text.foldl step mode

/-- The mode of a scanner that stands `depth + 1` braces deeper. -/
def shift (depth : Nat) : Mode → Mode
  | .between => .inside depth
  | .inside inner => .inside (depth + 1 + inner)
  | .quoted inner => .quoted (depth + 1 + inner)
  | .escaped inner => .escaped (depth + 1 + inner)
  | .rejected => .rejected

@[simp] theorem run_nil (mode : Mode) : mode.run [] = mode := rfl

@[simp] theorem run_cons (mode : Mode) (byte : UInt8) (text : Bytes) :
    mode.run (byte :: text) = (mode.step byte).run text := rfl

@[simp] theorem run_append (mode : Mode) (first second : Bytes) :
    mode.run (first ++ second) = (mode.run first).run second :=
  List.foldl_append

@[simp] theorem run_rejected (text : Bytes) : rejected.run text = rejected := by
  induction text with
  | nil => rfl
  | cons byte text ih => exact ih

theorem run_ne_rejected_of_append {mode : Mode} {first second : Bytes}
    (accepted : mode.run (first ++ second) ≠ .rejected) : mode.run first ≠ .rejected := by
  intro rejects
  rw [run_append, rejects, run_rejected] at accepted
  exact accepted rfl

theorem step_ne_between {mode : Mode} {byte : UInt8} (within : mode ≠ .between)
    (other : byte ≠ closeBrace) : mode.step byte ≠ .between := by
  cases mode with
  | between => exact absurd rfl within
  | inside depth =>
      simp only [step, if_neg other]
      split
      · simp
      · split
        · simp
        · split <;> simp
  | quoted depth =>
      simp only [step]
      split
      · simp
      · split <;> simp
  | escaped depth => simp [step]
  | rejected => simp [step]

theorem run_ne_between {mode : Mode} {text : Bytes} (within : mode ≠ .between)
    (unclosed : closeBrace ∉ text) : mode.run text ≠ .between := by
  induction text generalizing mode with
  | nil => exact within
  | cons byte text ih =>
      rw [List.mem_cons, not_or] at unclosed
      exact ih (step_ne_between within (Ne.symm unclosed.1)) unclosed.2

theorem step_closeBrace_eq_between {mode : Mode}
    (ends : mode.step closeBrace = .between) : mode = .inside 0 := by
  cases mode with
  | inside depth =>
      cases depth with
      | zero => rfl
      | succ depth => cases ends
  | between => cases ends
  | quoted depth => cases ends
  | escaped depth => cases ends
  | rejected => cases ends

theorem step_between_of_isBlank {byte : UInt8} (blank : isBlank byte = true) :
    between.step byte = .between := if_pos blank

theorem step_between_eq_rejected {byte : UInt8} (filled : isBlank byte = false)
    (other : byte ≠ openBrace) : between.step byte = .rejected := by
  simp [step, filled, other]

theorem step_inside_of_isPlain {byte : UInt8} (plain : IsPlain byte) (depth : Nat) :
    (inside depth).step byte = .inside depth := by
  obtain ⟨noMark, noOpen, noClose, noSolidus, noLetter⟩ := plain
  simp [step, noMark, noOpen, noClose, noSolidus, noLetter]

theorem step_inside_eq_rejected {byte : UInt8}
    (special : byte = reverseSolidus ∨ byte = letterY) (depth : Nat) :
    (inside depth).step byte = .rejected := by
  rcases special with rfl | rfl <;> rfl

theorem step_quoted {byte : UInt8} (noMark : byte ≠ quotationMark)
    (noSolidus : byte ≠ reverseSolidus) (depth : Nat) :
    (quoted depth).step byte = .quoted depth := by
  simp [step, noMark, noSolidus]

/-- What a scanner reads that starts inside a value, one that started before it reads so
much deeper. -/
theorem step_shift (depth : Nat) {mode : Mode} {byte : UInt8}
    (accepted : mode.step byte ≠ .rejected) :
    (mode.shift depth).step byte = (mode.step byte).shift depth := by
  cases mode with
  | between =>
      by_cases blank : isBlank byte = true
      · rw [step_between_of_isBlank blank]
        exact step_inside_of_isPlain (isPlain_of_isBlank blank) depth
      · by_cases opens : byte = openBrace
        · subst opens
          rfl
        · exact absurd (step_between_eq_rejected (Bool.eq_false_iff.mpr blank) opens) accepted
  | inside inner =>
      rcases eq_or_isPlain byte with rfl | rfl | rfl | special | plain
      · rfl
      · rfl
      · cases inner with
        | zero => rfl
        | succ inner => rfl
      · exact absurd (step_inside_eq_rejected special inner) accepted
      · rw [step_inside_of_isPlain plain]
        exact step_inside_of_isPlain plain _
  | quoted inner =>
      by_cases isMark : byte = quotationMark
      · subst isMark
        rfl
      · by_cases escapes : byte = reverseSolidus
        · subst escapes
          rfl
        · rw [step_quoted isMark escapes]
          exact step_quoted isMark escapes _
  | escaped inner => rfl
  | rejected => rfl

theorem run_shift (depth : Nat) {mode : Mode} {text : Bytes}
    (accepted : mode.run text ≠ .rejected) :
    (mode.shift depth).run text = (mode.run text).shift depth := by
  induction text generalizing mode with
  | nil => rfl
  | cons byte text ih =>
      rw [run_cons] at accepted
      have first : mode.step byte ≠ .rejected := by
        intro rejects
        rw [rejects, run_rejected] at accepted
        exact accepted rfl
      rw [run_cons, run_cons, step_shift depth first, ih accepted]

end Mode

/-! What is counted on the way: the values that have ended, and whether a string had a `y`
or an escape. -/

structure State where
  mode : Mode
  values : Nat
  spelled : Bool
  deriving DecidableEq

namespace State

def start : State where
  mode := .between
  values := 0
  spelled := false

def step (state : State) (byte : UInt8) : State where
  mode := state.mode.step byte
  values := if state.mode = .inside 0 ∧ byte = closeBrace then state.values + 1 else state.values
  spelled :=
    match state.mode with
    | .quoted _ => state.spelled || byte = reverseSolidus || byte = letterY
    | _ => state.spelled

def run (state : State) (text : Bytes) : State :=
  text.foldl step state

@[simp] theorem run_nil (state : State) : state.run [] = state := rfl

@[simp] theorem run_cons (state : State) (byte : UInt8) (text : Bytes) :
    state.run (byte :: text) = (state.step byte).run text := rfl

@[simp] theorem run_append (state : State) (first second : Bytes) :
    state.run (first ++ second) = (state.run first).run second :=
  List.foldl_append

@[simp] theorem mode_run (state : State) (text : Bytes) :
    (state.run text).mode = state.mode.run text := by
  induction text generalizing state with
  | nil => rfl
  | cons byte text ih => exact ih _

theorem values_le_step (state : State) (byte : UInt8) :
    state.values ≤ (state.step byte).values := by
  simp only [step]
  split
  · exact Nat.le_succ _
  · exact Nat.le_refl _

theorem values_le_run (state : State) (text : Bytes) :
    state.values ≤ (state.run text).values := by
  induction text generalizing state with
  | nil => exact Nat.le_refl _
  | cons byte text ih => exact Nat.le_trans (values_le_step state byte) (ih _)

theorem values_run {state : State} {text : Bytes} (unclosed : closeBrace ∉ text) :
    (state.run text).values = state.values := by
  induction text generalizing state with
  | nil => rfl
  | cons byte text ih =>
      rw [List.mem_cons, not_or] at unclosed
      rw [run_cons, ih unclosed.2]
      simp [step, Ne.symm unclosed.1]

theorem values_lt_run {state : State} {text : Bytes} (within : state.mode ≠ .between)
    (ended : (state.run text).mode = .between) : state.values < (state.run text).values := by
  induction text generalizing state with
  | nil => exact absurd ended within
  | cons byte text ih =>
      by_cases ends : (state.step byte).mode = .between
      · obtain rfl : byte = closeBrace := by
          by_contra other
          exact Mode.step_ne_between within other ends
        have last := Mode.step_closeBrace_eq_between ends
        have counted : (state.step closeBrace).values = state.values + 1 := by
          simp [step, last]
        exact Nat.lt_of_lt_of_le (counted ▸ Nat.lt_succ_self _) (values_le_run _ text)
      · exact Nat.lt_of_le_of_lt (values_le_step state byte) (ih ends ended)

theorem run_inside {text : Bytes} (plain : ∀ byte ∈ text, IsPlain byte) (depth values : Nat)
    (spelled : Bool) :
    run ⟨.inside depth, values, spelled⟩ text = ⟨.inside depth, values, spelled⟩ := by
  induction text with
  | nil => rfl
  | cons byte text ih =>
      have first := plain byte List.mem_cons_self
      have stays : step ⟨.inside depth, values, spelled⟩ byte =
          ⟨.inside depth, values, spelled⟩ := by
        simp [step, Mode.step_inside_of_isPlain first, first.2.2.1]
      rw [run_cons, stays]
      exact ih fun other inside => plain other (List.mem_cons_of_mem byte inside)

theorem run_quoted {text : Bytes}
    (unmarked : ∀ byte ∈ text, byte ≠ quotationMark ∧ byte ≠ reverseSolidus) (depth values : Nat)
    (spelled : Bool) :
    run ⟨.quoted depth, values, spelled⟩ text =
      ⟨.quoted depth, values, spelled || text.contains letterY⟩ := by
  induction text generalizing spelled with
  | nil => simp
  | cons byte text ih =>
      obtain ⟨noMark, noSolidus⟩ := unmarked byte List.mem_cons_self
      have stays : step ⟨.quoted depth, values, spelled⟩ byte =
          ⟨.quoted depth, values, spelled || decide (byte = letterY)⟩ := by
        simp [step, Mode.step_quoted noMark noSolidus, noSolidus]
      rw [run_cons, stays, ih fun other inside => unmarked other (List.mem_cons_of_mem byte inside)]
      simp [Bool.or_assoc, eq_comm]

end State

/-- The text is one object, and a string of it could be a key with a `y`. -/
structure IsObject (text : Bytes) : Prop where
  ended : (State.start.run text).mode = .between
  single : (State.start.run text).values = 1
  spelled : (State.start.run text).spelled = true

theorem IsObject.run_eq {text : Bytes} (isObject : IsObject text) :
    Mode.between.run text = .between := by
  have ended := isObject.ended
  rw [State.mode_run] at ended
  exact ended

theorem IsObject.closeBrace_mem {text : Bytes} (isObject : IsObject text) :
    closeBrace ∈ text := by
  by_contra unclosed
  have single := isObject.single
  rw [State.values_run unclosed] at single
  cases single

/-- No object is the beginning of another one, up to the space behind it. -/
theorem IsObject.eq_of_extends {first second : Bytes} (left : IsObject first)
    (right : IsObject second) (last : second.getLast? = some closeBrace)
    (isPrefix : first <+: second) : first = second := by
  obtain ⟨more, rfl⟩ := isPrefix
  rcases List.eq_nil_or_concat more with rfl | ⟨initial, byte, rfl⟩
  · rw [List.append_nil]
  · obtain rfl : byte = closeBrace := by simpa using last
    exfalso
    rw [List.concat_eq_append, ← List.append_assoc] at right
    have ended := right.ended
    have single := right.single
    have grown := State.values_le_run (State.start.run first) initial
    rw [State.run_append, State.run_cons, State.run_nil] at ended single
    have within := Mode.step_closeBrace_eq_between ended
    rw [← State.run_append] at grown
    simp only [State.step, within, and_self, if_true] at single
    rw [left.single] at grown
    omega

theorem IsObject.run_ne_between {before after : Bytes} (isObject : IsObject (before ++ after))
    (opens : before.head? = some openBrace) (closes : after.getLast? = some closeBrace) :
    Mode.between.run before ≠ .between := by
  intro ended
  obtain ⟨rest, rfl⟩ := List.head?_eq_some_iff.mp opens
  obtain ⟨initial, rfl⟩ := List.getLast?_eq_some_iff.mp closes
  have grown : 0 < (State.start.run (openBrace :: rest)).values := by
    apply @State.values_lt_run (State.start.step openBrace)
    · simp [State.step, State.start, Mode.step, openBrace, isBlank]
    · rw [← State.run_cons, State.mode_run]
      exact ended
  have last := isObject.ended
  have single := isObject.single
  rw [← List.append_assoc, State.run_append, State.run_cons, State.run_nil] at last single
  have within := Mode.step_closeBrace_eq_between last
  have later := State.values_le_run (State.start.run (openBrace :: rest)) initial
  rw [← State.run_append] at later
  simp only [State.step, within, and_self, if_true] at single
  omega

theorem IsObject.newline_cons {text : Bytes} (isObject : IsObject text) :
    IsObject (newline :: text) := by
  have same : State.start.run (newline :: text) = State.start.run text := rfl
  exact ⟨same ▸ isObject.ended, same ▸ isObject.single, same ▸ isObject.spelled⟩

/-- The objects of the text have ended at its newlines and at its end. -/
structure Lined (text : Bytes) : Prop where
  ended : Mode.between.run text = .between
  apart : ∀ before after, text = before ++ newline :: after →
    Mode.between.run before = .between

theorem Lined.nil : Lined [] where
  ended := rfl
  apart before after split := by simp at split

theorem Lined.cons {line text : Bytes} (isObject : IsObject line) (oneLine : newline ∉ line)
    (lined : Lined text) : Lined (line ++ newline :: text) := by
  constructor
  · rw [Mode.run_append, isObject.run_eq]
    exact lined.ended
  · intro before after split
    rcases List.append_eq_append_iff.mp split with ⟨more, rfl, rest⟩ | ⟨more, rfl, rest⟩
    · cases more with
      | nil => rw [List.append_nil, isObject.run_eq]
      | cons byte more =>
          obtain ⟨rfl, rfl⟩ := List.cons.inj rest
          rw [Mode.run_append, isObject.run_eq]
          exact lined.apart more after rfl
    · cases more with
      | nil =>
          rw [List.append_nil] at isObject
          exact isObject.run_eq
      | cons byte more =>
          obtain ⟨rfl, _⟩ := List.cons.inj rest
          simp at oneLine

/-! A scanner that starts inside a string takes what is quoted for what is not.  The one
that started before it keeps it from ever reading a key. -/

/-- The outer scanner quotes what the inner one does not, and the other way round. -/
inductive Flipped : Mode → Mode → Prop where
  | escaped (depth : Nat) : Flipped (.escaped depth) .between
  | waiting (depth : Nat) : Flipped (.quoted depth) .between
  | quoted (depth inner : Nat) : Flipped (.quoted depth) (.inside inner)
  | inside (depth inner : Nat) : Flipped (.inside depth) (.quoted inner)
  | between (inner : Nat) : Flipped .between (.quoted inner)

theorem Flipped.step {outer inner : Mode} (flipped : Flipped outer inner) {byte : UInt8}
    (accepted : outer.step byte ≠ .rejected) :
    inner.step byte = .rejected ∨ Flipped (outer.step byte) (inner.step byte) := by
  cases flipped with
  | escaped depth =>
      by_cases blank : isBlank byte = true
      · rw [Mode.step_between_of_isBlank blank]
        exact Or.inr (Flipped.waiting depth)
      · by_cases opens : byte = openBrace
        · subst opens
          exact Or.inr (Flipped.quoted depth 0)
        · exact Or.inl (Mode.step_between_eq_rejected (Bool.eq_false_iff.mpr blank) opens)
  | waiting depth =>
      by_cases blank : isBlank byte = true
      · obtain ⟨noMark, _, _, noSolidus, _⟩ := isPlain_of_isBlank blank
        rw [Mode.step_between_of_isBlank blank, Mode.step_quoted noMark noSolidus]
        exact Or.inr (Flipped.waiting depth)
      · by_cases opens : byte = openBrace
        · subst opens
          exact Or.inr (Flipped.quoted depth 0)
        · exact Or.inl (Mode.step_between_eq_rejected (Bool.eq_false_iff.mpr blank) opens)
  | quoted depth inner =>
      rcases eq_or_isPlain byte with rfl | rfl | rfl | special | plain
      · exact Or.inr (Flipped.inside depth inner)
      · exact Or.inr (Flipped.quoted depth (inner + 1))
      · cases inner with
        | zero => exact Or.inr (Flipped.waiting depth)
        | succ inner => exact Or.inr (Flipped.quoted depth inner)
      · exact Or.inl (Mode.step_inside_eq_rejected special inner)
      · rw [Mode.step_inside_of_isPlain plain, Mode.step_quoted plain.1 plain.2.2.2.1]
        exact Or.inr (Flipped.quoted depth inner)
  | inside depth inner =>
      rcases eq_or_isPlain byte with rfl | rfl | rfl | special | plain
      · exact Or.inr (Flipped.quoted depth inner)
      · exact Or.inr (Flipped.inside (depth + 1) inner)
      · cases depth with
        | zero => exact Or.inr (Flipped.between inner)
        | succ depth => exact Or.inr (Flipped.inside depth inner)
      · exact absurd (Mode.step_inside_eq_rejected special depth) accepted
      · rw [Mode.step_inside_of_isPlain plain, Mode.step_quoted plain.1 plain.2.2.2.1]
        exact Or.inr (Flipped.inside depth inner)
  | between inner =>
      by_cases blank : isBlank byte = true
      · obtain ⟨noMark, _, _, noSolidus, _⟩ := isPlain_of_isBlank blank
        rw [Mode.step_between_of_isBlank blank, Mode.step_quoted noMark noSolidus]
        exact Or.inr (Flipped.between inner)
      · by_cases opens : byte = openBrace
        · subst opens
          exact Or.inr (Flipped.inside 0 inner)
        · exact absurd (Mode.step_between_eq_rejected (Bool.eq_false_iff.mpr blank) opens)
            accepted

/-- What the inner scanner quotes has no `y` and no escape, since it stands outside the
strings of the outer one. -/
theorem Flipped.spelled_step {outer : Mode} {state : State}
    (flipped : Flipped outer state.mode) {byte : UInt8}
    (accepted : outer.step byte ≠ .rejected) (unspelled : state.spelled = false) :
    (state.step byte).spelled = false := by
  obtain ⟨mode, values, spelled⟩ := state
  obtain rfl : spelled = false := unspelled
  have plain : ∀ inner, mode = .quoted inner →
      byte ≠ reverseSolidus ∧ byte ≠ letterY := by
    rintro inner rfl
    cases flipped with
    | inside depth inner =>
        exact not_or.mp fun special =>
          accepted (Mode.step_inside_eq_rejected special depth)
    | between inner =>
        constructor
        · rintro rfl
          exact accepted rfl
        · rintro rfl
          exact accepted rfl
  cases mode with
  | quoted inner =>
      obtain ⟨noSolidus, noLetter⟩ := plain inner rfl
      simp [State.step, noSolidus, noLetter]
  | between => rfl
  | inside depth => rfl
  | escaped depth => rfl
  | rejected => rfl

theorem State.spelled_run_of_rejected {state : State} (rejects : state.mode = .rejected)
    (text : Bytes) : (state.run text).spelled = state.spelled := by
  induction text generalizing state with
  | nil => rfl
  | cons byte text ih =>
      have next : (state.step byte).mode = .rejected := by
        simp [State.step, rejects, Mode.step]
      rw [State.run_cons, ih next]
      simp [State.step, rejects]

theorem Flipped.spelled_run {outer : Mode} {state : State}
    (flipped : Flipped outer state.mode) {text : Bytes}
    (accepted : outer.run text ≠ .rejected) (unspelled : state.spelled = false) :
    (state.run text).spelled = false := by
  induction text generalizing outer state with
  | nil => exact unspelled
  | cons byte text ih =>
      have first : outer.step byte ≠ .rejected := by
        intro rejects
        rw [Mode.run_cons, rejects, Mode.run_rejected] at accepted
        exact accepted rfl
      have spelled := flipped.spelled_step first unspelled
      rcases flipped.step first with rejects | flipped
      · rw [State.run_cons, State.spelled_run_of_rejected rejects, spelled]
      · exact ih flipped accepted spelled

/-- An object that starts inside another one ends inside it too. -/
theorem IsObject.ends_inside {mode : Mode} {text : Bytes} (isObject : IsObject text)
    (within : mode ≠ .between) (accepted : mode.run text ≠ .rejected) :
    mode.run text ≠ .between := by
  have flipped : ¬ Flipped mode State.start.mode := by
    intro flipped
    have unspelled := flipped.spelled_run accepted rfl
    rw [isObject.spelled] at unspelled
    cases unspelled
  cases mode with
  | between => exact absurd rfl within
  | inside depth =>
      have deeper := Mode.run_shift depth
        (show Mode.between.run text ≠ .rejected by rw [isObject.run_eq]; simp)
      rw [isObject.run_eq] at deeper
      rw [show Mode.inside depth = Mode.between.shift depth from rfl, deeper]
      simp [Mode.shift]
  | quoted depth => exact absurd (Flipped.waiting depth) flipped
  | escaped depth => exact absurd (Flipped.escaped depth) flipped
  | rejected => simp

end AndroidMessenger.Library.JsonScan
