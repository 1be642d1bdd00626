import TranscodeConsole.Proofs.Json.Cutting

/-!
Documents are read as the trees that the grammar has for them. A value is taken wherever one may
stand, and what stands behind it is left as it was.
-/
namespace TranscodeConsole.Json

open Grammar

namespace Tree

def Progress.after (p : Progress) (s : Bytes) : Progress := (Token.cut s).foldl Progress.step p

theorem after_blanks (p : Progress) {s rest : Bytes} (blanks : Blanks s rest) :
    p.after s = p.after rest := by
  rw [Progress.after, Token.cut_blanks blanks, Progress.after]

theorem after_token {s rest : Bytes} {token : Token} (cut : Token.cut s = token :: Token.cut rest)
    (p : Progress) : p.after s = (p.step token).after rest := by
  rw [Progress.after, cut, List.foldl_cons, Progress.after]

def Ready (frames : List Frame) (place : Place) : Prop :=
  ∀ token, token ≠ .closeArray →
    Progress.step (.reading frames place) token = .value frames token

theorem ready_value (frames : List Frame) : Ready frames .value := by
  intro token _
  cases frames <;> rfl

inductive Opens : Place → Prop where
  | first : Opens .first
  | another : Opens .another

theorem Opens.ready {place : Place} (opens : Opens place) (items : List Tree)
    (frames : List Frame) : Ready (.array items :: frames) place := by
  intro token other
  cases opens <;> simp [Progress.step, other]

theorem Opens.key {place : Place} (opens : Opens place) (members : List (Literal × Tree))
    (frames : List Frame) (body : Bytes) :
    Progress.step (.reading (.object members :: frames) place) (.literal ⟨body, .closed⟩) =
      .reading (.member members ⟨body, .closed⟩ :: frames) .colon := by
  cases opens <;> rfl

mutual

theorem value_parsed {frames : List Frame} {place : Place} {s rest : Bytes} {t : Tree}
    (ready : Ready frames place) (apart : Token.Apart rest) : Grammar.Value s t rest →
      Progress.after (.reading frames place) s = Progress.after (.behind t frames) rest
  | .null => by
    rw [after_token (Token.cut_null rest), ready _ (by simp)]
    rfl
  | .true => by
    rw [after_token (Token.cut_true rest), ready _ (by simp)]
    rfl
  | .false => by
    rw [after_token (Token.cut_false rest), ready _ (by simp)]
    rfl
  | .number numeral => by
    have whole : ∀ n, NumeralText s n rest → n.ending = .whole := by
      rintro n (_ | _) <;> rfl
    rw [after_token (Token.cut_numeral numeral apart), ready _ (by simp), Progress.value,
      if_pos (whole _ numeral)]
  | .string closed => by
    rw [after_token (Token.cut_literal closed rest), ready _ (by simp)]
    rfl
  | .emptyArray blanks => by
    rw [after_token (Token.cut_openArray _), ready _ (by simp), after_blanks _ blanks,
      after_token (Token.cut_closeArray _)]
    rfl
  | .array parts => by
    rw [after_token (Token.cut_openArray _), ready _ (by simp)]
    exact items_parsed .first parts
  | .emptyObject blanks => by
    rw [after_token (Token.cut_openObject _), ready _ (by simp), after_blanks _ blanks,
      after_token (Token.cut_closeObject _)]
    rfl
  | .object parts => by
    rw [after_token (Token.cut_openObject _), ready _ (by simp)]
    exact members_parsed .first parts

theorem items_parsed {frames : List Frame} {place : Place} {s rest : Bytes} {done ts : List Tree}
    (opens : Opens place) : Items s ts rest →
      Progress.after (.reading (.array done :: frames) place) s =
        Progress.after (.behind (.array (done.reverse ++ ts) .closed) frames) rest
  | .last before value behind => by
    have apart := Token.apart_blanks behind (Token.apart_cons (by decide) _)
    rw [after_blanks _ before, value_parsed (opens.ready done frames) apart value,
      after_blanks _ behind, after_token (Token.cut_closeArray _), ← List.reverse_cons]
    rfl
  | .more before value behind later => by
    have apart := Token.apart_blanks behind (Token.apart_cons (by decide) _)
    rw [after_blanks _ before, value_parsed (opens.ready done frames) apart value,
      after_blanks _ behind, after_token (Token.cut_comma _), List.append_cons,
      ← List.reverse_cons]
    exact items_parsed .another later

theorem member_parsed {frames : List Frame} {place : Place} {s rest : Bytes} {key : Literal}
    {t : Tree} {done : List (Literal × Tree)} (opens : Opens place) (apart : Token.Apart rest) :
    Member s key t rest → Progress.after (.reading (.object done :: frames) place) s =
      Progress.after (.reading (.object ((key, t) :: done) :: frames) .next) rest
  | .mk before closed colon between value => by
    rw [after_blanks _ before, after_token (Token.cut_literal closed _), opens.key,
      after_blanks _ colon, after_token (Token.cut_colon _), after_blanks _ between]
    exact value_parsed (ready_value _) apart value

theorem members_parsed {frames : List Frame} {place : Place} {s rest : Bytes}
    {done ms : List (Literal × Tree)} (opens : Opens place) : Members s ms rest →
      Progress.after (.reading (.object done :: frames) place) s =
        Progress.after (.behind (.object (done.reverse ++ ms) .closed) frames) rest
  | .last member behind => by
    have apart := Token.apart_blanks behind (Token.apart_cons (by decide) _)
    rw [member_parsed opens apart member, after_blanks _ behind,
      after_token (Token.cut_closeObject _), ← List.reverse_cons]
    rfl
  | .more member behind later => by
    have apart := Token.apart_blanks behind (Token.apart_cons (by decide) _)
    rw [member_parsed opens apart member, after_blanks _ behind, after_token (Token.cut_comma _),
      List.append_cons, ← List.reverse_cons]
    exact members_parsed .another later

end

theorem parse_document {s : Bytes} {t : Tree} (document : Document s t) :
    parse s = (t, false) := by
  obtain ⟨first, second, before, value, behind⟩ := document
  have apart : Token.Apart second := Token.apart_blanks behind (by simp [Token.Apart])
  have read : Progress.after (.reading [] .value) s = .complete t false := by
    rw [after_blanks _ before, value_parsed (ready_value []) apart value, after_blanks _ behind]
    rfl
  rw [parse, ofTokens]
  exact congrArg Progress.finish read

end Tree

theorem readDocument_iff {α : Type} {read : Reader α} {bytes : Bytes} {v : α} :
    readDocument read bytes = .ok v ↔
      read (Tree.parse bytes).1 = .ok v ∧ (Tree.parse bytes).2 = false := by
  unfold readDocument
  obtain ⟨t, trailing⟩ := Tree.parse bytes
  cases isRead : read t <;> cases trailing <;>
    simp [isRead, bind, Except.bind, pure, Except.pure]

theorem readDocument_of_document {α : Type} {read : Reader α} {s : Bytes} {t : Tree}
    (document : Grammar.Document s t) : readDocument read s = read t := by
  unfold readDocument
  rw [Tree.parse_document document]
  cases isRead : read t <;> simp [isRead, bind, Except.bind, pure, Except.pure]

end TranscodeConsole.Json
