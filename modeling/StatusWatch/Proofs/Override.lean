import StatusWatch.Override
import StatusWatch.Proofs.Condition.Tokens
import StatusWatch.Proofs.Success

/-!
The grammar of overrides. A text with an equals sign stands for exactly one override: all behind the
first equals sign is the condition, and the last slash before it divides group and kind. This is the
override that is read from the text, unless it lacks a kind or its condition cannot be read.
-/

namespace StatusWatch.Override

theorem cut_append {c : Char} {before : List Char} (apart : c ∉ before) (after : List Char) :
    (before ++ c :: after).takeWhile (· != c) = before ∧
      (before ++ c :: after).dropWhile (· != c) = c :: after := by
  apply Condition.Parser.span_append
  · intro d mem
    exact bne_iff_ne.mpr (ne_of_mem_of_not_mem mem apart)
  · rintro d ⟨⟩
    exact bne_self_eq_false c

theorem dropWhile_of_notMem {c : Char} {text : List Char} (apart : c ∉ text) :
    text.dropWhile (· != c) = [] := by
  rw [List.dropWhile_eq_nil_iff]
  intro d mem
  exact bne_iff_ne.mpr (ne_of_mem_of_not_mem mem apart)

theorem exists_last_cut {c : Char} {text : List Char} (mem : c ∈ text) :
    ∃ before after, text = before ++ c :: after ∧ c ∉ after := by
  -- Turned around, the last separator is the first.
  obtain ⟨after, before, turned, apart⟩ := List.eq_append_cons_of_mem (List.mem_reverse.mpr mem)
  refine ⟨before.reverse, after.reverse, ?_, mt List.mem_reverse.mp apart⟩
  rw [← List.reverse_reverse text, turned]
  simp

theorem splitTarget?_append {target : List Char} (apart : '=' ∉ target) (condition : List Char) :
    splitTarget? (target ++ '=' :: condition) = some (target, condition) := by
  obtain ⟨taken, left⟩ := cut_append apart condition
  rw [splitTarget?, left, taken]

theorem splitTarget?_of_notMem {text : List Char} (apart : '=' ∉ text) :
    splitTarget? text = none := by
  rw [splitTarget?, dropWhile_of_notMem apart]

theorem splitKind_append {kind : List Char} (apart : '/' ∉ kind) (group : List Char) :
    splitKind (group ++ '/' :: kind) = ⟨String.ofList group, String.ofList kind⟩ := by
  have turned : (group ++ '/' :: kind).reverse = kind.reverse ++ '/' :: group.reverse := by simp
  obtain ⟨taken, left⟩ := cut_append (mt List.mem_reverse.mp apart) group.reverse
  simp only [splitKind, turned, taken, left, List.reverse_reverse]

theorem splitKind_of_notMem {target : List Char} (apart : '/' ∉ target) :
    splitKind target = ⟨"", String.ofList target⟩ := by
  rw [splitKind, dropWhile_of_notMem (mt List.mem_reverse.mp apart)]

/-- A text stands for an override. The slash may be left out with an empty group. -/
structure Spells (o : Override) (text : String) : Prop where
  kind_slash : '/' ∉ o.target.kind.toList
  kind_equals : '=' ∉ o.target.kind.toList
  group_equals : '=' ∉ o.target.group.toList
  shape : text = o.target.group ++ "/" ++ o.target.kind ++ "=" ++ o.condition.text ∨
    text = o.target.kind ++ "=" ++ o.condition.text ∧ o.target.group = ""

/-- What comes of an override that a text stands for: it needs a kind, and a condition that
compiles. -/
def checked (text : String) (o : Override) : Except OverrideFault Override :=
  if o.target.kind = "" then .error (.noKind text)
  else (o.condition.compile.mapError .badCondition).map fun _ => o

variable {text : String} {o o' : Override}

theorem checked_eq_ok_iff :
    checked text o = .ok o' ↔
      o = o' ∧ o.target.kind ≠ "" ∧ ∃ path, o.condition.compile = .ok path := by
  unfold checked
  by_cases unnamed : o.target.kind = ""
  · simp [unnamed]
  · rw [if_neg unnamed, map_eq_ok]
    simp only [mapError_eq_ok]
    constructor
    · rintro ⟨path, compiles, rfl⟩
      exact ⟨rfl, unnamed, path, compiles⟩
    · rintro ⟨rfl, -, path, compiles⟩
      exact ⟨path, compiles, rfl⟩

theorem parse_of_split {target condition : List Char}
    (split : splitTarget? text.toList = some (target, condition)) :
    parse text = checked text ⟨splitKind target, ⟨String.ofList condition⟩⟩ := by
  simp only [parse, checked, split]
  cases Condition.compile ⟨String.ofList condition⟩ <;> rfl

theorem parse_of_notMem (apart : '=' ∉ text.toList) : parse text = .error (.noSeparator text) := by
  rw [parse, splitTarget?_of_notMem apart]

theorem Spells.split (h : o.Spells text) :
    ∃ target, splitTarget? text.toList = some (target, o.condition.text.toList) ∧
      splitKind target = o.target := by
  -- No part of the target has an equals sign, so the first one is that in front of the condition.
  obtain ⟨slash, equals, equals', rfl | ⟨rfl, core⟩⟩ := h
  · have apart : '=' ∉ o.target.group.toList ++ '/' :: o.target.kind.toList := by
      simp [equals, equals']
    refine ⟨o.target.group.toList ++ '/' :: o.target.kind.toList, ?_, ?_⟩
    · rw [← splitTarget?_append apart]
      simp
    · rw [splitKind_append slash, String.ofList_toList, String.ofList_toList]
  · refine ⟨o.target.kind.toList, ?_, ?_⟩
    · rw [← splitTarget?_append equals]
      simp
    · rw [splitKind_of_notMem slash, String.ofList_toList, ← core]

theorem Spells.parse_eq (h : o.Spells text) : parse text = checked text o := by
  obtain ⟨target, split, kind⟩ := h.split
  rw [parse_of_split split, kind, String.ofList_toList]

theorem Spells.unique (h : o.Spells text) (h' : o'.Spells text) : o' = o := by
  obtain ⟨target, split, kind⟩ := h.split
  obtain ⟨target', split', kind'⟩ := h'.split
  rw [split, Option.some.injEq, Prod.mk.injEq, String.toList_inj] at split'
  obtain ⟨rfl, condition⟩ := split'
  calc o' = ⟨splitKind target, ⟨o'.condition.text⟩⟩ := by rw [kind']
    _ = o := by rw [kind, ← condition]

theorem exists_spells (equals : '=' ∈ text.toList) : ∃ o : Override, o.Spells text := by
  obtain ⟨target, condition, cut, apart⟩ := List.eq_append_cons_of_mem equals
  by_cases slash : '/' ∈ target
  · obtain ⟨group, kind, rfl, last⟩ := exists_last_cut slash
    rw [List.mem_append, List.mem_cons, not_or, not_or] at apart
    refine ⟨⟨⟨String.ofList group, String.ofList kind⟩, ⟨String.ofList condition⟩⟩, ?_, ?_, ?_,
      .inl ?_⟩
    · rwa [String.toList_ofList]
    · rw [String.toList_ofList]
      exact apart.2.2
    · rw [String.toList_ofList]
      exact apart.1
    · rw [← String.toList_inj, cut]
      simp
  · refine ⟨⟨⟨"", String.ofList target⟩, ⟨String.ofList condition⟩⟩, ?_, ?_, List.not_mem_nil,
      .inr ⟨?_, rfl⟩⟩
    · rwa [String.toList_ofList]
    · rwa [String.toList_ofList]
    · rw [← String.toList_inj, cut]
      simp

theorem parse_cases (text : String) :
    '=' ∉ text.toList ∧ parse text = .error (.noSeparator text) ∨
      ∃ o : Override, o.Spells text ∧ parse text = checked text o := by
  by_cases equals : '=' ∈ text.toList
  · obtain ⟨o, spelled⟩ := exists_spells equals
    exact .inr ⟨o, spelled, spelled.parse_eq⟩
  · exact .inl ⟨equals, parse_of_notMem equals⟩

/-- An override with a kind and a condition that compiles is read from just the texts that stand for
it. If it lacks either, these texts are still cut in the same places, which are the only ones. -/
theorem parse_spelled (text : String) :
    (∀ o : Override, parse text = .ok o ↔
      (∃ path, o.condition.compile = .ok path) ∧ o.target.kind ≠ "" ∧ o.Spells text) ∧
    ∀ o : Override, o.Spells text →
      parse text = checked text o ∧ ∀ o' : Override, o'.Spells text → o' = o := by
  refine ⟨fun o => ?_, fun o spelled => ⟨spelled.parse_eq, fun _ => spelled.unique⟩⟩
  constructor
  · intro read
    rcases parse_cases text with ⟨-, refused⟩ | ⟨o', spelled, outcome⟩
    · rw [refused] at read
      cases read
    · rw [outcome] at read
      obtain ⟨rfl, named, compiles⟩ := checked_eq_ok_iff.mp read
      exact ⟨compiles, named, spelled⟩
  · rintro ⟨compiles, named, spelled⟩
    rw [spelled.parse_eq]
    exact checked_eq_ok_iff.mpr ⟨rfl, named, compiles⟩

/-- A slash in the group, and both separators in the condition. -/
theorem parse_spelled_widget :
    let o : Override := ⟨⟨"example.com/east", "Widget"⟩, ⟨"@.path==\"/a=b\""⟩⟩
    let text := "example.com/east/Widget=@.path==\"/a=b\""
    o.Spells text ∧ parse text = .ok o := by
  intro o text
  have spelled : o.Spells text := ⟨by decide, by decide, by decide, .inl rfl⟩
  have compiles : (⟨"@.path==\"/a=b\""⟩ : Condition).compile = .ok (.mk .document [.field "items",
      .filter (.compare (.path (.mk .item [.field "path"])) .eq (.literal (.text "/a=b")))]) := rfl
  exact ⟨spelled, ((parse_spelled text).1 o).mpr ⟨⟨_, compiles⟩, by decide, spelled⟩⟩

end StatusWatch.Override
