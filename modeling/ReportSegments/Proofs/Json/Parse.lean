import ReportSegments.Proofs.Json.Integer
import ReportSegments.Proofs.Json.Written

/-!
This module contains what the machine that reads JSON makes of the lexemes of a value: the value
itself, with a gap for each container that stands too deep.
-/

namespace ReportSegments
namespace Json

open Dialect Progress

mutual

/--
The raw value that is read for a value around which `depth` containers are open.
-/
def rawAt (d : Dialect) (depth : Nat) : Json → Raw
  | null => .null
  | bool b => .bool b
  | number n => .number n
  | string s => .text s
  | array items => readable d (depth + 1) (.list (rawItems d (depth + 1) items))
  | object members => readable d (depth + 1) (.table (rawMembers d (depth + 1) members))

def rawItems (d : Dialect) (depth : Nat) : List Json → List Raw
  | [] => []
  | item :: items => rawAt d depth item :: rawItems d depth items

def rawMembers (d : Dialect) (depth : Nat) : List (String × Json) → List (Option String × Raw)
  | [] => []
  | (name, value) :: members => (some name, rawAt d depth value) :: rawMembers d depth members

end

/--
The values whose lexemes take the machine past the place of a value.
-/
def Parses (d : Dialect) (value : Json) : Prop :=
  ∀ stack, value.lexemes.foldlM (step? d) (.expecting .value stack) =
    place? (value.rawAt d stack.length) stack

variable {d : Dialect} {limit : Option Nat} {value : Json} {progress next : Progress}
  {lexeme : Lexeme} {stack : List Frame}

theorem foldlM_cons_of_step? (h : step? d progress lexeme = some next) (lexemes : List Lexeme) :
    (lexeme :: lexemes).foldlM (step? d) progress = lexemes.foldlM (step? d) next := by
  rw [List.foldlM_cons, h]
  rfl

theorem foldlM_append_of_foldlM {front : List Lexeme}
    (h : front.foldlM (step? d) progress = some next) (lexemes : List Lexeme) :
    (front ++ lexemes).foldlM (step? d) progress = lexemes.foldlM (step? d) next := by
  rw [List.foldlM_append, h]
  rfl

theorem foldlM_singleton (progress : Progress) (lexeme : Lexeme) :
    [lexeme].foldlM (step? d) progress = step? d progress lexeme := by
  rw [List.foldlM_cons]
  exact bind_pure _

theorem foldlM_word {cs : List Char} {raw : Raw} (h : Strict.readWord? cs = some raw)
    (stack : List Frame) :
    [.word cs].foldlM (step? (strict limit)) (.expecting .value stack) = place? raw stack := by
  rw [foldlM_singleton]
  change (Strict.readWord? cs).bind (place? · stack) = place? raw stack
  rw [h]
  rfl

theorem step?_valueOrEnd (hne : lexeme ≠ .mark ']') (stack : List Frame) :
    step? d (.expecting .valueOrEnd stack) lexeme = step? d (.expecting .value stack) lexeme := by
  have hvalue : step? d (.expecting .value stack) lexeme = value? d stack lexeme := rfl
  rw [hvalue, step?]
  exact hne

theorem exists_lexemes_eq_cons (value : Json) :
    ∃ lexeme rest, value.lexemes = lexeme :: rest ∧ lexeme ≠ .mark ']' := by
  cases value with
  | bool b => cases b <;> exact ⟨_, _, rfl, by simp⟩
  | _ => exact ⟨_, _, rfl, by simp⟩

/--
Parts with commas between them, of which each takes the machine from `opened` to `closed`.
-/
theorem foldlM_intercalate (opened closed : List β → Progress) (lexemes : α → List Lexeme)
    (raw : α → β)
    (hcomma : ∀ reversed, step? d (closed reversed) (.mark ',') = some (opened reversed))
    {first : α} {parts : List α}
    (hparts : ∀ part ∈ first :: parts, ∀ reversed,
      (lexemes part).foldlM (step? d) (opened reversed) = some (closed (raw part :: reversed)))
    (reversed : List β) :
    ([.mark ','].intercalate ((first :: parts).map lexemes)).foldlM (step? d) (opened reversed) =
      some (closed (((first :: parts).map raw).reverse ++ reversed)) := by
  induction parts generalizing first reversed with
  | nil =>
    rw [List.map_singleton, List.intercalate_singleton, hparts first List.mem_cons_self]
    rfl
  | cons second parts ih =>
    obtain ⟨hfirst, hrest⟩ := List.forall_mem_cons.1 hparts
    rw [List.map_cons, List.map_cons, List.intercalate_cons_cons, ← List.map_cons,
      List.append_assoc, foldlM_append_of_foldlM (hfirst reversed), List.singleton_append,
      foldlM_cons_of_step? (hcomma _), ih hrest, List.map_cons (a := first), List.reverse_cons,
      List.append_assoc]
    rfl

theorem itemLexemes_eq_map (items : List Json) : itemLexemes items = items.map lexemes := by
  induction items with
  | nil => rfl
  | cons item items ih => rw [itemLexemes, ih, List.map_cons]

theorem rawItems_eq_map (d : Dialect) (depth : Nat) (items : List Json) :
    rawItems d depth items = items.map (rawAt d depth) := by
  induction items with
  | nil => rfl
  | cons item items ih => rw [rawItems, ih, List.map_cons]

theorem memberLexemes_eq_map (members : List (String × Json)) :
    memberLexemes members = members.map fun (name, value) =>
      .quoted (name.toList.flatMap escapeChar) :: .mark ':' :: lexemes value := by
  induction members with
  | nil => rfl
  | cons member members ih => rw [memberLexemes, ih, List.map_cons]

theorem rawMembers_eq_map (d : Dialect) (depth : Nat) (members : List (String × Json)) :
    rawMembers d depth members =
      members.map fun (name, value) => (some name, rawAt d depth value) := by
  induction members with
  | nil => rfl
  | cons member members ih => rw [rawMembers, ih, List.map_cons]

/--
The first item of a list is read like the items behind a comma.
-/
theorem foldlM_valueOrEnd (first : Json) (items : List Json) (stack : List Frame) :
    ([.mark ','].intercalate (itemLexemes (first :: items))).foldlM (step? d)
        (.expecting .valueOrEnd stack) =
      ([.mark ','].intercalate (itemLexemes (first :: items))).foldlM (step? d)
        (.expecting .value stack) := by
  obtain ⟨lexeme, rest, heq, hne⟩ := exists_lexemes_eq_cons first
  rw [itemLexemes, heq, List.intercalate_cons_cons_left, List.foldlM_cons, List.foldlM_cons,
    step?_valueOrEnd hne]

theorem foldlM_nameOrEnd (first : String × Json) (members : List (String × Json))
    (stack : List Frame) :
    ([.mark ','].intercalate (memberLexemes (first :: members))).foldlM (step? d)
        (.expecting .nameOrEnd stack) =
      ([.mark ','].intercalate (memberLexemes (first :: members))).foldlM (step? d)
        (.expecting .name stack) := by
  rw [memberLexemes, List.intercalate_cons_cons_left]
  rfl

theorem parses_array {items : List Json}
    (h : ∀ item ∈ items, item.Parses (strict limit)) : (array items).Parses (strict limit) := by
  intro stack
  have hopen : step? (strict limit) (.expecting .value stack) (.mark '[') =
      some (.expecting .valueOrEnd (.list [] :: stack)) := rfl
  rw [lexemes, List.cons_append, foldlM_cons_of_step? hopen]
  cases items with
  | nil => exact foldlM_singleton _ _
  | cons first items =>
    have hitems : ([.mark ','].intercalate (itemLexemes (first :: items))).foldlM
        (step? (strict limit)) (.expecting .valueOrEnd (.list [] :: stack)) =
        some (.expecting .commaOrEnd
          (.list (rawItems (strict limit) (stack.length + 1) (first :: items)).reverse :: stack)) := by
      rw [foldlM_valueOrEnd, itemLexemes_eq_map, rawItems_eq_map,
        foldlM_intercalate (fun reversed => .expecting .value (.list reversed :: stack))
          (fun reversed => .expecting .commaOrEnd (.list reversed :: stack)) lexemes
          (rawAt (strict limit) (stack.length + 1)) (fun _ => rfl), List.append_nil]
      intro item hitem reversed
      exact h item hitem (.list reversed :: stack)
    rw [foldlM_append_of_foldlM hitems, foldlM_singleton]
    change place? _ _ = _
    rw [List.reverse_reverse]
    rfl

theorem foldlM_member {name : String} {value : Json} (h : value.Parses (strict limit))
    (reversed : List (Option String × Raw)) (stack : List Frame) :
    (.quoted (name.toList.flatMap escapeChar) :: .mark ':' :: lexemes value).foldlM
        (step? (strict limit)) (.expecting .name (.table reversed :: stack)) =
      some (.expecting .commaOrEnd
        (.table ((some name, rawAt (strict limit) (stack.length + 1) value) :: reversed) ::
          stack)) := by
  have hname : step? (strict limit) (.expecting .name (.table reversed :: stack))
      (.quoted (name.toList.flatMap escapeChar)) =
      some (.expecting .colon (.entry reversed (some name) :: stack)) := by
    rw [step?, name?, readQuoted?_flatMap_escapeChar]
    rfl
  have hcolon : step? (strict limit) (.expecting .colon (.entry reversed (some name) :: stack))
      (.mark ':') = some (.expecting .value (.entry reversed (some name) :: stack)) := rfl
  rw [foldlM_cons_of_step? hname, foldlM_cons_of_step? hcolon]
  exact h (.entry reversed (some name) :: stack)

theorem parses_object {members : List (String × Json)}
    (h : ∀ member ∈ members, member.2.Parses (strict limit)) :
    (object members).Parses (strict limit) := by
  intro stack
  have hopen : step? (strict limit) (.expecting .value stack) (.mark '{') =
      some (.expecting .nameOrEnd (.table [] :: stack)) := rfl
  rw [lexemes, List.cons_append, foldlM_cons_of_step? hopen]
  cases members with
  | nil => exact foldlM_singleton _ _
  | cons first members =>
    have hmembers : ([.mark ','].intercalate (memberLexemes (first :: members))).foldlM
        (step? (strict limit)) (.expecting .nameOrEnd (.table [] :: stack)) =
        some (.expecting .commaOrEnd
          (.table (rawMembers (strict limit) (stack.length + 1) (first :: members)).reverse ::
            stack)) := by
      rw [foldlM_nameOrEnd, memberLexemes_eq_map, rawMembers_eq_map,
        foldlM_intercalate (fun reversed => .expecting .name (.table reversed :: stack))
          (fun reversed => .expecting .commaOrEnd (.table reversed :: stack)) _
          (fun (name, value) => (some name, rawAt (strict limit) (stack.length + 1) value))
          (fun _ => rfl), List.append_nil]
      intro member hmember reversed
      exact foldlM_member (h member hmember) reversed stack
    rw [foldlM_append_of_foldlM hmembers, foldlM_singleton]
    change place? _ _ = _
    rw [List.reverse_reverse]
    rfl

/--
The lexemes of a value are read as the value, wherever it stands.
-/
theorem Exact.parses (h : value.Exact) : value.Parses (strict limit) := by
  induction h with
  | null =>
    intro stack
    exact foldlM_word rfl stack
  | bool b =>
    intro stack
    cases b <;> exact foldlM_word rfl stack
  | integer n =>
    intro stack
    exact foldlM_word (Strict.readWord?_text n) stack
  | string s =>
    intro stack
    rw [lexemes, foldlM_singleton, step?, value?, readQuoted?_flatMap_escapeChar]
    rfl
  | array _ ih => exact parses_array ih
  | object _ _ ih => exact parses_object ih

theorem read?_of_scans {cs : List Char} (h : value.Exact)
    (hscans : (strict limit).Scans cs value.lexemes) :
    (strict limit).read? (String.ofList cs) = some (value.rawAt (strict limit) 0) := by
  unfold Dialect.read? Dialect.parse? Progress.start
  rw [String.toList_ofList, hscans.lexemes?_eq, Option.bind_some, h.parses]
  rfl

end Json
end ReportSegments
