import OpenidTlsConnector.Foundations.Loops
import OpenidTlsConnector.Users.Rdns

/-!
# Splitting a distinguished name loses nothing

The loop of `split_rdns` with the variables it has in the source.  Behind an
escape it may stand inside a character, but it never cuts there: it cuts at
the unescaped commas and at nothing else.
-/

namespace OpenidTlsConnector

open Foundations Foundations.Escaping

/-! ## The loop -/

structure SplitState where
  i : Nat
  start : Nat
  parts : List String

def SplitState.initial : SplitState := { i := 0, start := 0, parts := [] }

/-- The body of the loop.  An index out of range is a panic, and so is a slice
off a character boundary. -/
def splitRound (dn : String) (state : SplitState) : Option SplitState := do
  let bytes := Text.utf8 dn
  let byte ← bytes[state.i]?
  if byte = '\\'.toUInt8 ∧ state.i + 1 < bytes.length then
    some { state with i := state.i + 2 }
  else if byte = ','.toUInt8 then do
    let part ← Text.slice dn state.start state.i
    some { i := state.i + 1, start := state.i + 1, parts := state.parts ++ [part] }
  else some { state with i := state.i + 1 }

def splitLoop (dn : String) : Loop SplitState where
  continues state := state.i < (Text.utf8 dn).length
  round := splitRound dn

/-- What stands behind the loop: the rest is the last part. -/
def SplitState.finish (dn : String) (state : SplitState) : Option (List String) := do
  let last ← Text.slice dn state.start (Text.utf8 dn).length
  some (state.parts ++ [last])

variable {dn : String} {state next : SplitState}

theorem continues_iff :
    (splitLoop dn).continues state = true ↔ state.i < (Text.utf8 dn).length := decide_eq_true_iff

theorem ended_iff :
    (splitLoop dn).continues state = false ↔ (Text.utf8 dn).length ≤ state.i :=
  decide_eq_false_iff_not.trans Nat.not_lt

/-- What one round does. -/
inductive SplitRound (dn : String) (state : SplitState) : SplitState → Prop
  | escape : (Text.utf8 dn)[state.i]? = some '\\'.toUInt8 →
      state.i + 1 < (Text.utf8 dn).length →
      SplitRound dn state { state with i := state.i + 2 }
  | comma {part} : (Text.utf8 dn)[state.i]? = some ','.toUInt8 →
      Text.slice dn state.start state.i = some part →
      SplitRound dn state
        { i := state.i + 1, start := state.i + 1, parts := state.parts ++ [part] }
  | pass {byte} : (Text.utf8 dn)[state.i]? = some byte → byte ≠ ','.toUInt8 →
      (byte = '\\'.toUInt8 → ¬ state.i + 1 < (Text.utf8 dn).length) →
      SplitRound dn state { state with i := state.i + 1 }

theorem splitRound_of_eq_some (round : splitRound dn state = some next) :
    SplitRound dn state next := by
  unfold splitRound at round
  cases read : (Text.utf8 dn)[state.i]? with
  | none => simp [read] at round
  | some byte =>
      simp only [read, Option.bind_eq_bind, Option.bind_some] at round
      split_ifs at round with escape comma
      · cases round
        exact .escape (by rw [read, escape.1]) escape.2
      · obtain ⟨part, sliced, moved⟩ := Option.bind_eq_some_iff.mp round
        cases moved
        exact .comma (by rw [read, comma]) sliced
      · cases round
        exact .pass read comma fun isEscape inside => escape ⟨isEscape, inside⟩

/-! ## What the loop returns -/

/-- What is returned if the loop goes on from here. -/
def SplitState.result (dn : String) (state : SplitState) : Option (List String) :=
  splitRdnsFrom dn ((Text.utf8 dn).drop state.i) state.i state.start state.parts

theorem result_initial (dn : String) : SplitState.initial.result dn = splitRdns dn := rfl

theorem result_of_ended (ended : (splitLoop dn).continues state = false) :
    state.result dn = state.finish dn := by
  rw [SplitState.result, List.drop_eq_nil_of_le (ended_iff.mp ended), splitRdnsFrom]
  rfl

/-- The bytes from an offset on begin with the one that stands there. -/
theorem drop_eq_cons {bytes : List UInt8} {i : Nat} {byte : UInt8} (read : bytes[i]? = some byte) :
    bytes.drop i = byte :: bytes.drop (i + 1) := by
  rw [List.drop_eq_getElem?_toList_append, read]
  rfl

/-- A round changes nothing about what is returned. -/
theorem result_of_continues (goesOn : (splitLoop dn).continues state = true) :
    state.result dn = (splitRound dn state).bind (SplitState.result dn) := by
  obtain ⟨byte, read⟩ : ∃ byte, (Text.utf8 dn)[state.i]? = some byte :=
    ⟨_, List.getElem?_eq_getElem (continues_iff.mp goesOn)⟩
  rw [SplitState.result, drop_eq_cons read, splitRound]
  simp only [read, Option.bind_eq_bind, Option.bind_some]
  split_ifs with escape comma
  · obtain ⟨rfl, more⟩ := escape
    rw [List.drop_eq_getElem_cons more, splitRdnsFrom_escape]
    rfl
  · rw [comma, splitRdnsFrom_comma, Option.bind_assoc]
    rfl
  · by_cases isEscape : byte = '\\'.toUInt8
    · -- the trailing backslash
      have last : (Text.utf8 dn).length ≤ state.i + 1 :=
        Nat.le_of_not_lt fun more => escape ⟨isEscape, more⟩
      rw [isEscape, List.drop_eq_nil_of_le last, splitRdnsFrom_trailing, Option.bind_some,
        SplitState.result, List.drop_eq_nil_of_le last]
    · have ordinary : ∀ other ∈ [byte], IsOrdinaryByte other := by
        simpa using ⟨isEscape, comma⟩
      exact splitRdnsFrom_ordinary ordinary _ _ _ _

/-! ## Where the loop cuts -/

/-- The offsets of the commas behind parts that are joined from an offset on. -/
def commasBehind (offset : Nat) : List String → List Nat
  | [] => []
  | part :: rest =>
      (offset + (Text.utf8 part).length) ::
        commasBehind (offset + (Text.utf8 part).length + 1) rest

/-- How many bytes parts take up that have a comma behind each. -/
def widthWithCommas (parts : List String) : Nat :=
  (parts.map fun part => (Text.utf8 part).length + 1).sum

theorem length_commasBehind (offset : Nat) (parts : List String) :
    (commasBehind offset parts).length = parts.length := by
  induction parts generalizing offset with
  | nil => rfl
  | cons part rest inductionHypothesis => simp [commasBehind, inductionHypothesis]

theorem commasBehind_snoc (offset : Nat) (parts : List String) (part : String) :
    commasBehind offset (parts ++ [part]) =
      commasBehind offset parts ++
        [offset + widthWithCommas parts + (Text.utf8 part).length] := by
  induction parts generalizing offset with
  | nil => simp [commasBehind, widthWithCommas]
  | cons first rest inductionHypothesis =>
      rw [List.cons_append, commasBehind, inductionHypothesis, commasBehind, List.cons_append]
      simp only [widthWithCommas, List.map_cons, List.sum_cons]
      congr 4
      omega

theorem widthWithCommas_snoc (parts : List String) (part : String) :
    widthWithCommas (parts ++ [part]) = widthWithCommas parts + (Text.utf8 part).length + 1 := by
  simp [widthWithCommas, Nat.add_assoc]

/-- The unescaped commas of a distinguished name. -/
def unescapedCommas (dn : String) : List Nat :=
  unescapedBefore '\\'.toUInt8 ','.toUInt8 (Text.utf8 dn) (Text.utf8 dn).length

/-- What holds between two rounds.  The byte at `i` is not escaped, although it
may stand inside a character that is, and the parts end at the unescaped
commas before it. -/
structure SplitState.Consistent (dn : String) (state : SplitState) : Prop where
  inside : state.i ≤ (Text.utf8 dn).length
  returns : state.result dn = splitRdns dn
  unescaped : isEscaped '\\'.toUInt8 (Text.utf8 dn) state.i = false
  commas : commasBehind 0 state.parts =
    unescapedBefore '\\'.toUInt8 ','.toUInt8 (Text.utf8 dn) state.i
  begins : state.start = widthWithCommas state.parts

theorem consistent_initial (dn : String) : SplitState.initial.Consistent dn where
  inside := Nat.zero_le _
  returns := result_initial dn
  unescaped := rfl
  commas := rfl
  begins := rfl

theorem SplitRound.lowers (round : SplitRound dn state next) : state.i < next.i := by
  cases round with
  | escape => exact Nat.lt_add_of_pos_right (by decide)
  | comma => exact Nat.lt_succ_self state.i
  | pass => exact Nat.lt_succ_self state.i

theorem SplitRound.consistent (round : SplitRound dn state next)
    (consistent : state.Consistent dn) (returns : next.result dn = splitRdns dn) :
    next.Consistent dn := by
  obtain ⟨inside, -, unescaped, commas, begins⟩ := consistent
  cases round with
  | escape isEscape more =>
      -- the byte behind the backslash is escaped, the one behind that is not
      have escaped := isEscaped_succ_of_escape isEscape more unescaped
      have noComma : (Text.utf8 dn)[state.i]? ≠ some ','.toUInt8 := by
        rw [isEscape]
        decide
      refine ⟨more, returns, isEscaped_succ_of_escaped escaped, ?_, begins⟩
      rw [unescapedBefore_succ_of_escaped escaped, unescapedBefore_succ_of_plain noComma]
      exact commas
  | @comma part isComma sliced =>
      have ends : widthWithCommas state.parts + (Text.utf8 part).length = state.i :=
        begins ▸ Text.length_of_slice sliced
      obtain ⟨within, -⟩ := List.getElem?_eq_some_iff.mp isComma
      refine ⟨within, returns, ?_, ?_, ?_⟩
      · apply isEscaped_succ_of_inactive
        intro isEscape
        cases isComma.symm.trans isEscape
      · rw [unescapedBefore_succ_of_separator isComma unescaped, ← commas, commasBehind_snoc,
          Nat.zero_add, ends]
      · rw [widthWithCommas_snoc, ends]
  | @pass byte read noComma inactive =>
      obtain ⟨within, -⟩ := List.getElem?_eq_some_iff.mp read
      refine ⟨within, returns, ?_, ?_, begins⟩
      · apply isEscaped_succ_of_inactive
        intro isEscape
        exact inactive (Option.some.inj (read.symm.trans isEscape))
      · rw [unescapedBefore_succ_of_plain (by simpa [read] using noComma)]
        exact commas

/-- Every round comes through, because something is returned in the end. -/
theorem splitLoop_progresses (dn : String) :
    (splitLoop dn).Progresses (SplitState.Consistent dn)
      fun state => (Text.utf8 dn).length - state.i := by
  intro state goesOn consistent
  have returned := consistent.returns
  rw [result_of_continues goesOn, splitRdns_eq, Option.bind_eq_some_iff] at returned
  obtain ⟨next, round, returns⟩ := returned
  have effect := splitRound_of_eq_some round
  exact ⟨next, round, effect.consistent consistent (returns.trans (splitRdns_eq dn).symm),
    Nat.sub_lt_sub_left (continues_iff.mp goesOn) effect.lowers⟩

/-! ## Slices -/

/-- The two places where the source slices: at a comma, and behind the loop. -/
structure SplitState.SlicesInside (dn : String) (state : SplitState) : Prop where
  atComma : (splitLoop dn).continues state = true →
    (Text.utf8 dn)[state.i]? = some ','.toUInt8 → Text.Sliceable dn state.start state.i
  atEnd : (splitLoop dn).continues state = false →
    Text.Sliceable dn state.start (Text.utf8 dn).length

theorem slicesInside_of_consistent (consistent : state.Consistent dn) :
    state.SlicesInside dn := by
  have returned := consistent.returns.trans (splitRdns_eq dn)
  constructor
  · intro goesOn isComma
    obtain ⟨next, round, -⟩ := splitLoop_progresses dn state goesOn consistent
    cases splitRound_of_eq_some round with
    | escape isEscape _ => cases isComma.symm.trans isEscape
    | comma _ sliced => exact Text.exists_slice_iff.mp ⟨_, sliced⟩
    | pass read noComma _ => exact absurd (Option.some.inj (read.symm.trans isComma)) noComma
  · intro ended
    rw [result_of_ended ended, SplitState.finish, Option.bind_eq_bind,
      Option.bind_eq_some_iff] at returned
    obtain ⟨last, sliced, -⟩ := returned
    exact Text.exists_slice_iff.mp ⟨_, sliced⟩

/-! ## Parts -/

variable {parts : List String}

theorem intercalate_of_splitRdns (split : splitRdns dn = some parts) :
    ",".intercalate parts = dn := by
  rw [splitRdns_eq, Option.some.injEq] at split
  rw [← split, ← String.toList_inj, String.toList_intercalate, List.map_map]
  have unchanged : String.toList ∘ String.ofList = id := funext fun _ => String.toList_ofList
  rw [unchanged, List.map_id]
  exact intercalate_splitUnescaped ',' dn.toList

theorem splitRdns_of_mem (split : splitRdns dn = some parts) :
    ∀ part ∈ parts, splitRdns part = some [part] := by
  rw [splitRdns_eq, Option.some.injEq] at split
  subst split
  intro part membership
  obtain ⟨chars, inSplit, rfl⟩ := List.mem_map.mp membership
  rw [splitRdns_eq, String.toList_ofList, splitUnescaped_of_mem ',' dn.toList chars inSplit]
  rfl

/-- The loop ends at the end of the bytes, and the source returns from there. -/
theorem exists_final (dn : String) :
    ∃ final, (splitLoop dn).run (Text.utf8 dn).length SplitState.initial = some final ∧
      (splitLoop dn).continues final = false ∧ final.Consistent dn ∧
      splitRdns dn = final.finish dn := by
  obtain ⟨final, runs, consistent, ends⟩ :=
    (splitLoop_progresses dn).run (Text.utf8 dn).length (consistent_initial dn)
  have ended := ends (Nat.le_of_eq (Nat.sub_zero _))
  exact ⟨final, runs, ended, consistent, consistent.returns.symm.trans (result_of_ended ended)⟩

/-- The parts but the last one end at the unescaped commas. -/
theorem commasBehind_of_splitRdns (split : splitRdns dn = some parts) :
    parts ≠ [] ∧ commasBehind 0 parts.dropLast = unescapedCommas dn := by
  obtain ⟨final, -, ended, consistent, finish⟩ := exists_final dn
  have atEnd : final.i = (Text.utf8 dn).length :=
    Nat.le_antisymm consistent.inside (ended_iff.mp ended)
  rw [split, SplitState.finish, Option.bind_eq_bind, eq_comm, Option.bind_eq_some_iff] at finish
  obtain ⟨last, -, whole⟩ := finish
  obtain rfl := Option.some.inj whole
  refine ⟨List.concat_ne_nil last final.parts, ?_⟩
  rw [List.dropLast_concat, consistent.commas, atEnd]
  rfl

/-- Parts that make up the text, are cut at its unescaped commas and cannot be
cut further. -/
structure LosslessSplit (dn : String) (parts : List String) : Prop where
  joined : ",".intercalate parts = dn
  count : parts.length = 1 + (unescapedCommas dn).length
  cuts : commasBehind 0 parts.dropLast = unescapedCommas dn
  indivisible : ∀ part ∈ parts, splitRdns part = some [part]

theorem losslessSplit_of_splitRdns (split : splitRdns dn = some parts) :
    LosslessSplit dn parts := by
  obtain ⟨nonempty, cuts⟩ := commasBehind_of_splitRdns split
  refine ⟨intercalate_of_splitRdns split, ?_, cuts, splitRdns_of_mem split⟩
  have positive : 0 < parts.length := List.length_pos_iff.mpr nonempty
  rw [← cuts, length_commasBehind, List.length_dropLast]
  omega

/-- On every text the loop ends within as many rounds as there are bytes, none
of its rounds leaves the text or slices a character apart, and what it returns
is the text cut at its unescaped commas. -/
theorem splitRdns_lossless (dn : String) :
    (∃ final, (splitLoop dn).run (Text.utf8 dn).length SplitState.initial = some final ∧
        (splitLoop dn).continues final = false ∧ splitRdns dn = final.finish dn) ∧
      (∀ rounds, ∃ state, (splitLoop dn).run rounds SplitState.initial = some state ∧
        state.i ≤ (Text.utf8 dn).length ∧ state.SlicesInside dn) ∧
      ∃ parts, splitRdns dn = some parts ∧ LosslessSplit dn parts := by
  refine ⟨?_, ?_, ?_⟩
  · obtain ⟨final, runs, ended, -, finish⟩ := exists_final dn
    exact ⟨final, runs, ended, finish⟩
  · intro rounds
    obtain ⟨state, runs, consistent, -⟩ :=
      (splitLoop_progresses dn).run rounds (consistent_initial dn)
    exact ⟨state, runs, consistent.inside, slicesInside_of_consistent consistent⟩
  · exact ⟨_, splitRdns_eq dn, losslessSplit_of_splitRdns (splitRdns_eq dn)⟩

-- a wide character behind a backslash, and a backslash at the end
example : splitRdns "CN=\\é\\,x,O=\\" = some ["CN=\\é\\,x", "O=\\"] ∧
    unescapedCommas "CN=\\é\\,x,O=\\" = [9] := by
  decide

end OpenidTlsConnector
