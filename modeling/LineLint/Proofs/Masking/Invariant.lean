import LineLint.Masker.Run

/- What holds of a masker within a line and between lines. Within a line literals and
   interpolations alternate, and a comment is innermost. Between lines no string is open. -/
namespace LineLint.Masker

/-- Constructs around code: each interpolation stands in a literal of the kind given. -/
inductive Layers (literal : Construct → Prop) : List Construct → Prop where
  | nil : Layers literal []
  | cons {c : Construct} {outer : List Construct} (kind : literal c)
      (around : Layers literal outer) :
      Layers literal (.interpolation :: c :: outer)

def Nested (literal : Construct → Prop) (stack : List Construct) : Prop :=
  Layers literal stack ∨
    ∃ c outer, stack = c :: outer ∧ (literal c ∨ c = .comment) ∧ Layers literal outer

def IsLiteral (c : Construct) : Prop := c.isLiteral = true

structure Sound (m : Masker) : Prop where
  nested : Nested IsLiteral m.stack
  counted : m.Counted
  positive : ∀ n ∈ m.parens, 1 ≤ n
  deep : m.stack.head? = some .comment → 1 ≤ m.commentDepth

theorem nested_outer {literal : Construct → Prop} {c : Construct} {outer : List Construct}
    (nested : Nested literal (c :: outer)) (closed : c ≠ .interpolation) :
    Layers literal outer := by
  rcases nested with layers | ⟨_, _, same, _, layers⟩
  · cases layers
    exact absurd rfl closed
  · cases same
    exact layers

theorem nested_interpolation {outer : List Construct}
    (nested : Nested IsLiteral (.interpolation :: outer)) :
    ∃ c around, outer = c :: around ∧ IsLiteral c ∧ Layers IsLiteral around := by
  rcases nested with layers | ⟨_, _, same, kind, _⟩
  · cases layers with
    | cons kind around => exact ⟨_, _, rfl, kind, around⟩
  · cases same
    simp [IsLiteral, Construct.isLiteral] at kind

theorem layers_of_code {m : Masker} (code : m.InCode) (nested : Nested IsLiteral m.stack) :
    Layers IsLiteral m.stack := by
  rcases code with empty | ⟨outer, inside⟩
  · rw [empty]
    exact .nil
  · rw [inside] at nested ⊢
    obtain ⟨c, around, rfl, kind, layers⟩ := nested_interpolation nested
    exact .cons kind layers

theorem layers_head {literal : Construct → Prop} {stack : List Construct}
    (layers : Layers literal stack) : stack.head? ≠ some .comment := by
  cases layers <;> simp

theorem push_sound {m : Masker} {c : Construct} {depth : Int} (code : m.InCode) (sound : m.Sound)
    (kind : IsLiteral c ∨ c = .comment) (deep : c = .comment → 1 ≤ depth) :
    Sound ⟨c :: m.stack, m.parens, depth⟩ where
  nested := .inr ⟨c, m.stack, rfl, kind, layers_of_code code sound.nested⟩
  counted := by
    have other : c ≠ .interpolation := by
      rintro rfl
      simp [IsLiteral, Construct.isLiteral] at kind
    simpa [Counted, List.count_cons, other] using sound.counted
  positive := sound.positive
  deep := by simpa using deep

theorem pop_sound {m : Masker} {c : Construct} {outer : List Construct} {depth : Int}
    (inside : m.stack = c :: outer) (closed : c ≠ .interpolation) (sound : m.Sound) :
    Sound ⟨outer, m.parens, depth⟩ where
  nested := .inl (nested_outer (inside ▸ sound.nested) closed)
  counted := by
    have counted := sound.counted
    simpa [Counted, inside, List.count_cons, closed] using counted
  positive := sound.positive
  deep head := absurd head (layers_head (nested_outer (inside ▸ sound.nested) closed))

theorem depth_sound {m : Masker} {depth : Int} (sound : m.Sound) (deep : 1 ≤ depth) :
    Sound { m with commentDepth := depth } :=
  ⟨sound.nested, sound.counted, sound.positive, fun _ => deep⟩

theorem literal_closed {c : Construct} (kind : c.isLiteral) : c ≠ .interpolation := by
  rintro rfl
  simp [Construct.isLiteral] at kind

theorem takes_sound {m : Masker} {raw : List Char} {s : MaskStep} (takes : m.Takes raw s)
    (sound : m.Sound) : s.after.Sound := by
  have counted := takes_counted takes sound.counted
  cases takes with
  | openComment code => exact push_sound code sound (.inr rfl) fun _ => Int.le_refl 1
  | openTextBlock code => exact push_sound code sound (.inl rfl) (by simp)
  | openString code => exact push_sound code sound (.inl rfl) (by simp)
  | countParen inside eq isParen more =>
    refine ⟨sound.nested, counted, ?_, sound.deep⟩
    have positive := sound.positive
    rw [eq] at positive
    intro n member
    rcases List.mem_cons.mp member with rfl | member
    · have before := positive _ List.mem_cons_self
      -- only a closing parenthesis takes one away, and it leaves some open
      unfold change at more ⊢
      split at more <;> split <;> omega
    · exact positive n (List.mem_cons_of_mem _ member)
  | @closeInterpolation c rest outer n counts inside eq isParen last =>
    obtain ⟨literal, around, rfl, kind, layers⟩ := nested_interpolation (inside ▸ sound.nested)
    refine ⟨.inr ⟨literal, around, rfl, .inl kind, layers⟩, counted, ?_, ?_⟩
    · intro k member
      exact sound.positive k (eq ▸ List.mem_cons_of_mem n member)
    · intro head
      rw [List.head?_cons, Option.some.injEq] at head
      rw [head] at kind
      simp [IsLiteral, Construct.isLiteral] at kind
  | @nestComment rest outer inside =>
    have deep := sound.deep (by rw [inside]; rfl)
    exact depth_sound sound (by omega)
  | closeNested inside deeper =>
    have deep := sound.deep (by rw [inside]; rfl)
    exact depth_sound sound (by omega)
  | closeComment inside last => exact pop_sound inside (by decide) sound
  | @openInterpolation rest literal outer inside kind =>
    refine ⟨.inl ?_, counted, ?_, by simp [Masker.openInterpolation]⟩
    · rw [Masker.openInterpolation, inside]
      exact .cons kind (nested_outer (inside ▸ sound.nested) (literal_closed kind))
    · intro n member
      rcases List.mem_cons.mp member with rfl | member
      · exact Int.le_refl 1
      · exact sound.positive n member
  | closeString inside => exact pop_sound inside (by decide) sound
  | closeTextBlock inside => exact pop_sound inside (by decide) sound
  | _ => exact sound

theorem runs_sound {m last : Masker} {raw shown : List Char} (runs : Runs m raw shown last)
    (sound : m.Sound) : last.Sound := by
  induction runs with
  | done => exact sound
  | step takes _ ih => exact ih (takes_sound takes sound)

end LineLint.Masker
