import TranscodeConsole.Proofs.Url.Path

/-!
Addresses of special schemes. Such an address that was read has a host, and its path lies in parts
that have no slash in them.
-/
namespace TranscodeConsole.Url

def Yields {ε α : Type} (P : α → Prop) (x : Except ε α) : Prop := ∀ a, x = .ok a → P a

namespace Yields

variable {ε α β : Type} {P : α → Prop}

theorem ok {a : α} (holds : P a) : Yields P (.ok a : Except ε α) := by
  rintro _ ⟨⟩
  exact holds

theorem error (e : ε) : Yields P (.error e) := by
  rintro _ ⟨⟩

theorem bind {x : Except ε β} {f : β → Except ε α} (each : ∀ b, Yields P (f b)) :
    Yields P (x >>= f) := by
  cases x with
  | error e => exact error e
  | ok b => exact each b

theorem ite {c : Prop} [Decidable c] {x y : Except ε α} (yes : Yields P x) (no : Yields P y) :
    Yields P (if c then x else y) := by
  split
  · exact yes
  · exact no

end Yields

structure Hosted (u : Url) : Prop where
  host : u.host.isSome = true
  path : ∃ parts, u.path = .segments parts ∧ Slashless parts

theorem withTail_eq (u : Url) (tail : List Char) :
    ∃ query fragment, withTail u tail = { u with query, fragment } := by
  unfold withTail
  dsimp only
  split
  · split <;> exact ⟨_, _, rfl⟩
  · exact ⟨_, _, rfl⟩
  · exact ⟨_, _, rfl⟩

@[simp] theorem scheme_withTail (u : Url) (tail : List Char) :
    (withTail u tail).scheme = u.scheme := by
  obtain ⟨query, fragment, same⟩ := withTail_eq u tail
  rw [same]

theorem Hosted.withTail {u : Url} (hosted : Hosted u) (tail : List Char) :
    Hosted (withTail u tail) := by
  obtain ⟨query, fragment, same⟩ := withTail_eq u tail
  rw [same]
  exact ⟨hosted.host, hosted.path⟩

/-! ### What each way of reading gives -/

variable {toAscii : ToAscii}

-- every branch ends with the same address, up to its host and its port
theorem yields_readHost (scheme cs : List Char) :
    Yields (fun u => u.scheme = scheme ∧ Hosted u) (readHost toAscii scheme cs) := by
  unfold readHost
  dsimp only
  repeat' first
    | refine .ite ?_ ?_
    | refine .bind fun _ => ?_
  all_goals
    refine .ok ⟨scheme_withTail _ _, Hosted.withTail ⟨rfl, _, rfl, .readAbsolute _ _⟩ _⟩

theorem yields_readFileHost (cs : List Char) :
    Yields (fun u => u.scheme = "file".toList) (readFileHost toAscii cs) := by
  unfold readFileHost
  exact .bind fun _ => .ok (scheme_withTail _ _)

theorem yields_readFile (cs : List Char) :
    Yields (fun u => u.scheme = "file".toList) (readFile toAscii none cs) := by
  unfold readFile
  generalize splitTail cs = texts
  obtain ⟨path, tail⟩ := texts
  match path with
  | [] | [_] => exact .ok (scheme_withTail _ _)
  | c :: d :: rest =>
    exact .ite (yields_readFileHost _)
      (.ite (.ok (scheme_withTail _ _)) (.ok (scheme_withTail _ _)))

theorem yields_readOther (scheme cs : List Char) :
    Yields (fun u => u.scheme = scheme) (readOther toAscii scheme cs) := by
  unfold readOther
  refine .ite (fun u read => (yields_readHost scheme _ u read).1) ?_
  dsimp only
  split <;> exact .ok (scheme_withTail _ _)

theorem hosted_of_parse {text : String} {u : Url} (read : parse toAscii text = .ok u)
    (special : u.kind = .special) : Hosted u := by
  unfold parse parseFrom at read
  dsimp only at read
  split at read
  · rename_i scheme rest named
    unfold readAbsoluteUrl at read
    split at read
    · have file := yields_readFile _ u read
      rw [kind, file] at special
      cases special
    · exact (yields_readHost scheme _ u read).2
    · rename_i other
      rw [kind, yields_readOther scheme _ u read, other] at special
      cases special
  · cases read

end TranscodeConsole.Url
