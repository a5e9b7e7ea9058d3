import TargetBench.Proofs.Json.Lexing

/-!
# Reading what was written

A document is read off its tokens with a stack of what is open. Reading the tokens of a part leaves
the stack as it was, so the whole is read as it was written.

## Main definitions

* `Json.depth`: how deep a document nests

## Main results

* `Json.Lettered.readText_compact`: the text of a document is read as the document
* `Json.Legible.sound_of_depth_le`: a document that does not nest too deep can be held
-/

namespace TargetBench.Json

/-! ## Reading tokens -/

namespace Reader

/-- Reads tokens one after the other. -/
def run (r : Reader) (ts : List Token) : Option Reader := ts.foldlM step r

theorem run_cons (r : Reader) (t : Token) (ts : List Token) :
    r.run (t :: ts) = (r.step t).bind fun r => r.run ts := rfl

theorem run_append (r : Reader) (ts us : List Token) :
    r.run (ts ++ us) = (r.run ts).bind fun r => r.run us := List.foldlM_append

/-- Its tokens give a document, where a value has to follow. -/
def Reads (doc : Json) : Prop :=
  ∀ stack, run ⟨stack, .value⟩ doc.tokens = some ⟨stack, .complete doc⟩

/-- No value begins with the end of an array. -/
theorem exists_tokens_eq_cons (doc : Json) : ∃ t ts, doc.tokens = t :: ts ∧ t ≠ .closeArray := by
  cases doc with
  | array items => cases items <;> exact ⟨_, _, rfl, nofun⟩
  | object members => cases members <;> exact ⟨_, _, rfl, nofun⟩
  | _ => exact ⟨_, _, rfl, nofun⟩

variable {x : Json}

/-- The first item of an array is read like any value. -/
theorem Reads.firstItem (h : Reads x) (stack : List Frame) :
    run ⟨stack, .firstItem⟩ x.tokens = some ⟨stack, .complete x⟩ := by
  obtain ⟨t, ts, htokens, hne⟩ := exists_tokens_eq_cons x
  -- only the end of the array would be read in another way
  have hstep : step ⟨stack, .firstItem⟩ t = step ⟨stack, .value⟩ t := by
    cases t <;> first | rfl | exact absurd rfl hne
  rw [← h stack, htokens, run_cons, run_cons, hstep]

/-- The items after a value, up to the end of the array. -/
theorem run_items {items : List Json} (h : ∀ x ∈ items, Reads x) (stack : List Frame)
    (before : List Json) (v : Json) :
    run ⟨.array before :: stack, .complete v⟩ (itemsTokens items) =
      some ⟨stack, .complete (.array (before.reverse ++ v :: items))⟩ := by
  induction items generalizing before v with
  | nil =>
    rw [← List.reverse_cons]
    rfl
  | cons x xs ih =>
    -- the comma puts the value before it to the items, and the next value follows
    have hcomma : step ⟨.array before :: stack, .complete v⟩ .comma =
        some ⟨.array (v :: before) :: stack, .value⟩ := rfl
    rw [itemsTokens, run_cons, hcomma, Option.bind_some, run_append, h x List.mem_cons_self,
      Option.bind_some, ih fun y hy => h y (List.mem_cons_of_mem x hy), List.reverse_cons,
      List.append_assoc]
    rfl

/-- The value of a name. -/
theorem Reads.member (h : Reads x) (stack : List Frame) (before : List (Quoted × Json))
    (name : Quoted) :
    run ⟨stack, .colon before name⟩ (.colon :: x.tokens) =
      some ⟨.object before name :: stack, .complete x⟩ :=
  h (.object before name :: stack)

/-- The members after a value, up to the end of the object. -/
theorem run_members {members : List (Quoted × Json)} (h : ∀ m ∈ members, Reads m.2)
    (stack : List Frame) (before : List (Quoted × Json)) (name : Quoted) (v : Json) :
    run ⟨.object before name :: stack, .complete v⟩ (membersTokens members) =
      some ⟨stack, .complete (.object (before.reverse ++ (name, v) :: members))⟩ := by
  induction members generalizing before name v with
  | nil =>
    rw [← List.reverse_cons]
    rfl
  | cons m ms ih =>
    obtain ⟨name', x⟩ := m
    have hname : run ⟨.object before name :: stack, .complete v⟩ [.comma, .text name'] =
        some ⟨stack, .colon ((name, v) :: before) name'⟩ := rfl
    have hx := (h _ List.mem_cons_self).member stack ((name, v) :: before) name'
    refine Eq.trans (run_append _ [.comma, .text name'] ((.colon :: x.tokens) ++ _)) ?_
    rw [hname, Option.bind_some, run_append, hx, Option.bind_some,
      ih fun m hm => h m (List.mem_cons_of_mem _ hm), List.reverse_cons, List.append_assoc]
    rfl

end Reader

open Reader

theorem Lettered.reads {doc : Json} (h : Lettered doc) : Reads doc := by
  intro stack
  induction h generalizing stack with
  | @array items _ ih =>
    cases items with
    | nil => rfl
    | cons x xs =>
      have hopen : step ⟨stack, .value⟩ .openArray = some ⟨.array [] :: stack, .firstItem⟩ := rfl
      rw [tokens, run_cons, hopen, Option.bind_some, run_append,
        Reads.firstItem (ih x List.mem_cons_self), Option.bind_some,
        run_items fun y hy => ih y (List.mem_cons_of_mem x hy)]
      rfl
  | @object members _ _ ih =>
    cases members with
    | nil => rfl
    | cons m ms =>
      obtain ⟨name, x⟩ := m
      have hname : run ⟨stack, .value⟩ [.openObject, .text name] =
          some ⟨stack, .colon [] name⟩ := rfl
      have hx := Reads.member (ih _ List.mem_cons_self) stack [] name
      refine Eq.trans (run_append _ [.openObject, .text name] ((.colon :: x.tokens) ++ _)) ?_
      rw [hname, Option.bind_some, run_append, hx, Option.bind_some,
        run_members fun m hm => ih m (List.mem_cons_of_mem _ hm)]
      rfl
  | _ => rfl

/-- The text of a document is read as the document. -/
theorem Lettered.readText_compact {doc : Json} (h : Lettered doc) :
    readText doc.compact = some doc := by
  have hread : doc.tokens.foldlM step ⟨[], .value⟩ = some ⟨[], .complete doc⟩ := h.reads []
  rw [readText, read, tokens?_compact h.cutsTokens]
  simp only [Option.bind_eq_bind, Option.bind_some, ofTokens?, hread]
  rfl

theorem Legible.readText_compact {doc : Json} (h : Legible doc) :
    readText doc.compact = some doc := h.lettered.readText_compact

/-- The bytes of a text hold the document that the text is read as. -/
theorem readBytes_bytes (s : String) : readBytes (Utf8.bytes s) = readText s := by
  rw [readBytes, Utf8.bytes, Utf8.symbols_encode, readText]

/-! ## Nesting -/

mutual

/-- How many brackets of a document are open inside each other at most. -/
def depth : Json → Nat
  | .array items => itemsDepth items + 1
  | .object members => membersDepth members + 1
  | _ => 0

/-- How deep items nest at most. -/
def itemsDepth : List Json → Nat
  | [] => 0
  | x :: xs => max x.depth (itemsDepth xs)

/-- How deep the values of members nest at most. -/
def membersDepth : List (Quoted × Json) → Nat
  | [] => 0
  | (_, x) :: ms => max x.depth (membersDepth ms)

end

theorem itemsDepth_le_iff {items : List Json} {n : Nat} :
    itemsDepth items ≤ n ↔ ∀ x ∈ items, x.depth ≤ n := by
  induction items with
  | nil => simp [itemsDepth]
  | cons x xs ih => rw [itemsDepth, Nat.max_le, ih, List.forall_mem_cons]

theorem membersDepth_le_iff {members : List (Quoted × Json)} {n : Nat} :
    membersDepth members ≤ n ↔ ∀ m ∈ members, m.2.depth ≤ n := by
  induction members with
  | nil => simp [membersDepth]
  | cons m ms ih => rw [membersDepth, Nat.max_le, ih, List.forall_mem_cons]

theorem depth_array_le_iff {items : List Json} {budget : Nat} :
    (Json.array items).depth ≤ budget ↔ ∃ b, budget = b + 1 ∧ ∀ x ∈ items, x.depth ≤ b := by
  cases budget with
  | zero => simp [depth]
  | succ b => simp [depth, itemsDepth_le_iff]

theorem depth_object_le_iff {members : List (Quoted × Json)} {budget : Nat} :
    (Json.object members).depth ≤ budget ↔
      ∃ b, budget = b + 1 ∧ ∀ m ∈ members, m.2.depth ≤ b := by
  cases budget with
  | zero => simp [depth]
  | succ b => simp [depth, membersDepth_le_iff]

theorem itemsSound_iff {items : List Json} {budget : Nat} :
    itemsSound budget items = true ↔ ∀ x ∈ items, x.sound budget = true := by
  induction items with
  | nil => simp [itemsSound]
  | cons x xs ih => rw [itemsSound, Bool.and_eq_true, ih, List.forall_mem_cons]

theorem membersSound_iff {members : List (Quoted × Json)} {budget : Nat} :
    membersSound budget members = true ↔
      ∀ m ∈ members, m.1.isSome = true ∧ m.2.sound budget = true := by
  induction members with
  | nil => simp [membersSound]
  | cons m ms ih =>
    rw [membersSound, Bool.and_eq_true, Bool.and_eq_true, ih, List.forall_mem_cons]

/-- A document that does not nest too deep can be held, if each of its parts can. -/
theorem Legible.sound_of_depth_le {doc : Json} (h : Legible doc) {budget : Nat}
    (hdepth : doc.depth ≤ budget) : doc.sound budget = true := by
  induction h generalizing budget with
  | number h => exact h
  | array _ ih =>
    obtain ⟨b, rfl, hitems⟩ := depth_array_le_iff.mp hdepth
    exact itemsSound_iff.mpr fun x hx => ih x hx (hitems x hx)
  | object hnames _ ih =>
    obtain ⟨b, rfl, hmembers⟩ := depth_object_le_iff.mp hdepth
    exact membersSound_iff.mpr fun m hm => ⟨hnames m hm, ih m hm (hmembers m hm)⟩
  | _ => rfl

end TargetBench.Json
