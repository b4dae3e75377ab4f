import RecipeEngine.Proofs.Expression.Completeness

namespace RecipeEngine.Parser

open Grammar

theorem parse_eq_ok_iff {stop : Nat} {ts : List Located} {e : Expression} :
    parse stop ts = .ok e ↔
      Derives .conditional 255 (tokens ts) e ∧ e.height ≤ 256 := by
  constructor
  · intro accepted
    cases ts with
    | nil => cases accepted
    | cons first rest =>
      simp only [parse] at accepted
      cases read : phrase stop limit limit (first :: rest) with
      | error why => simp [read] at accepted
      | ok parsed =>
        simp only [read] at accepted
        split at accepted
        · rename_i finished
          cases accepted
          obtain ⟨depth, room, taken⟩ := (phrase_operand_sound (by decide) limit).1 read
          obtain rfl : depth = 255 := (Nat.succ.inj room).symm
          obtain ⟨used, split, derivation⟩ := taken.derives
          rw [finished, List.append_nil] at split
          exact ⟨split ▸ derivation, taken.height ▸ taken.low⟩
        · cases accepted
  · rintro ⟨derivation, low⟩
    have given : Gives stop limit .conditional 255 (tokens ts) e :=
      gives_of_derives (by decide) derivation
    have read : phrase stop limit limit (ts ++ []) = .ok ⟨e, e.height, []⟩ :=
      given ts [] rfl low nofun
    rw [List.append_nil] at read
    cases ts with
    | nil =>
      obtain ⟨_, _, empty, -⟩ := derivation.begins
      cases empty
    | cons first rest => simp only [parse, read]

/-- A list of tokens has one tree at most, whatever its depth and height. -/
theorem derives_unique {ts : List Located} {depth depth' : Nat} {e e' : Expression}
    (derivation : Derives .conditional depth (tokens ts) e)
    (derivation' : Derives .conditional depth' (tokens ts) e') : e = e' := by
  have given : Gives 0 (e.height + e'.height + 1) .conditional (max depth depth') (tokens ts) e :=
    gives_of_derives (by omega) (derivation.deepen (by omega))
  have given' : Gives 0 (e.height + e'.height + 1) .conditional (max depth depth') (tokens ts) e' :=
    gives_of_derives (by omega) (derivation'.deepen (by omega))
  have read := given ts [] rfl (by omega) nofun
  rw [given' ts [] rfl (by omega) nofun] at read
  cases read
  rfl

/-- The parser gives a tree exactly where the grammar derives it with no part inside more than 255
others and no more than 256 nodes on any way down; it refuses all other lists of tokens, and no
list has two trees. -/
theorem parse_decides_grammar (stop : Nat) (ts : List Located) :
    (∀ e, parse stop ts = .ok e ↔ Derives .conditional 255 (tokens ts) e ∧ e.height ≤ 256) ∧
      ((¬ ∃ e, Derives .conditional 255 (tokens ts) e ∧ e.height ≤ 256) →
        ∃ why, parse stop ts = .error why) ∧
      ∀ depth depth' e e', Derives .conditional depth (tokens ts) e →
        Derives .conditional depth' (tokens ts) e' → e = e' := by
  refine ⟨fun e => parse_eq_ok_iff, fun none => ?_, fun depth depth' e e' => derives_unique⟩
  cases answer : parse stop ts with
  | error why => exact ⟨why, rfl⟩
  | ok e => exact absurd ⟨e, parse_eq_ok_iff.mp answer⟩ none

example : parse 5 [⟨.name "a", 0⟩, ⟨.symbol .minus, 1⟩, ⟨.name "b", 2⟩, ⟨.symbol .minus, 3⟩,
    ⟨.name "c", 4⟩] =
      .ok (.binary .subtract (.binary .subtract (.name "a") (.name "b")) (.name "c")) := by rfl

end RecipeEngine.Parser
