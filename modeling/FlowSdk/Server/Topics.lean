/-
  FlowSdk.Server.Topics — topic filters and the topics they match.

  A filter is a list of levels, with `+` for any one level and `#`, at the end, for all levels
  that are left. The source decides both what a filter is and what it matches by loops over the
  levels; here the two notions are stated without the loops.

  Main results:
    1. `validateLevels_eq_ok`, `levelsMatch_iff`   the loops
    2. `topicFilter_exact`   the filters that the two validators accept
    3. `topicMatches_iff`    the topics that a filter matches
-/
import FlowSdk.Server.Session
import Mathlib.Data.List.Forall2

namespace FlowSdk

open Wire

/-! ## Levels -/

/-- `+` stands only alone, `#` only alone and in the last level. -/
structure Wildcards (levels : List (List Char)) : Prop where
  single : ∀ level ∈ levels, '+' ∈ level → level = ['+']
  multi : ∀ before level after, levels = before ++ level :: after → '#' ∈ level →
    level = ['#'] ∧ after = []

theorem wildcards_cons {level : List Char} {levels : List (List Char)} :
    Wildcards (level :: levels) ↔ (('#' ∈ level → level = ['#'] ∧ levels = []) ∧
      ('+' ∈ level → level = ['+'])) ∧ Wildcards levels := by
  constructor
  · intro h
    refine ⟨⟨h.multi [] level levels rfl, h.single level List.mem_cons_self⟩,
      fun l hl => h.single l (List.mem_cons_of_mem _ hl), fun before l after heq => ?_⟩
    exact h.multi (level :: before) l after (by rw [heq]; rfl)
  · rintro ⟨⟨hmulti, hsingle⟩, h⟩
    refine ⟨fun l hl => ?_, fun before l after heq => ?_⟩
    · rcases List.mem_cons.mp hl with rfl | hl
      · exact hsingle
      · exact h.single l hl
    · cases before with
      | nil =>
        obtain ⟨rfl, rfl⟩ := List.cons.inj heq
        exact hmulti
      | cons first before => exact h.multi before l after (List.cons.inj heq).2

theorem validateLevels_eq_ok : ∀ {levels : List (List Char)},
    validateLevels levels = .ok () ↔ Wildcards levels
  | [] => ⟨fun _ => ⟨nofun, fun before _ _ heq => by cases before <;> cases heq⟩, fun _ => rfl⟩
  | level :: levels => by
    rw [wildcards_cons, ← validateLevels_eq_ok, validateLevels]
    by_cases hmulti : '#' ∈ level <;> by_cases hsingle : '+' ∈ level <;>
      simp only [hmulti, hsingle, if_true, if_false, check_bind_eq_ok, require_eq_ok, true_implies,
        false_implies, true_and, and_true, and_assoc]

/-- One level of a topic and the level of the filter for it. -/
def LevelMatches (filter topic : List Char) : Prop := filter = ['+'] ∨ filter = topic

/-- The levels agree one by one; a `#` at the end takes all that are left, if any. -/
def Matches (filters topics : List (List Char)) : Prop :=
  (filters.getLast? ≠ some ['#'] ∧ List.Forall₂ LevelMatches filters topics) ∨
    ∃ front matched rest, filters = front ++ [['#']] ∧ topics = matched ++ rest ∧
      List.Forall₂ LevelMatches front matched

theorem matches_nil {topics : List (List Char)} : Matches [] topics ↔ topics = [] := by
  constructor
  · rintro (⟨-, h⟩ | ⟨front, _, _, heq, -⟩)
    · cases h
      rfl
    · cases front <;> cases heq
  · rintro rfl
    exact .inl ⟨nofun, .nil⟩

theorem not_matches_cons_nil {level : List Char} {filters : List (List Char)} (h : level ≠ ['#']) :
    ¬ Matches (level :: filters) [] := by
  rintro (⟨-, h'⟩ | ⟨front, matched, rest, hfilters, htopics, hall⟩)
  · cases h'
  · obtain ⟨rfl, rfl⟩ := List.append_eq_nil_iff.mp htopics.symm
    cases hall
    exact h (List.cons.inj hfilters).1

theorem matches_cons {level topic : List Char} {filters topics : List (List Char)}
    (h : level ≠ ['#']) : Matches (level :: filters) (topic :: topics) ↔
      LevelMatches level topic ∧ Matches filters topics := by
  have hlast : (level :: filters).getLast? ≠ some ['#'] ↔ filters.getLast? ≠ some ['#'] := by
    cases filters with
    | nil => simp [h]
    | cons first filters => rw [List.getLast?_cons_of_ne_nil (List.cons_ne_nil _ _)]
  constructor
  · rintro (⟨hplain, hall⟩ | ⟨front, matched, rest, hfilters, htopics, hall⟩)
    · obtain ⟨hlevel, hall⟩ := List.forall₂_cons.mp hall
      exact ⟨hlevel, .inl ⟨hlast.mp hplain, hall⟩⟩
    · cases hall with
      | nil => exact absurd (List.cons.inj hfilters).1 h
      | cons hlevel hall =>
        obtain ⟨rfl, rfl⟩ := List.cons.inj hfilters
        obtain ⟨rfl, rfl⟩ := List.cons.inj htopics
        exact ⟨hlevel, .inr ⟨_, _, rest, rfl, rfl, hall⟩⟩
  · rintro ⟨hlevel, ⟨hplain, hall⟩ | ⟨front, matched, rest, rfl, rfl, hall⟩⟩
    · exact .inl ⟨hlast.mpr hplain, .cons hlevel hall⟩
    · exact .inr ⟨level :: front, topic :: matched, rest, rfl, rfl, .cons hlevel hall⟩

theorem levelsMatch_cons {level topic : List Char} {filters topics : List (List Char)}
    (h : level ≠ ['#']) : levelsMatch (level :: filters) (topic :: topics) = true ↔
      LevelMatches level topic ∧ levelsMatch filters topics = true := by
  by_cases hplus : level = ['+']
  · subst hplus
    simp only [levelsMatch, LevelMatches, true_or, true_and]
  · rw [levelsMatch, Bool.and_eq_true, decide_eq_true_eq, LevelMatches, eq_comm]
    · simp only [hplus, false_or]
    · exact fun heq => h heq
    · exact fun heq => hplus heq

/-- The loop decides the relation, on the levels of a filter that was accepted. -/
theorem levelsMatch_iff : ∀ {filters topics : List (List Char)}, Wildcards filters →
    (levelsMatch filters topics = true ↔ Matches filters topics)
  | [], topics, _ => by rw [matches_nil, levelsMatch, List.isEmpty_iff]
  | level :: filters, topics, h => by
    by_cases hmulti : level = ['#']
    · subst hmulti
      obtain ⟨-, rfl⟩ := h.multi [] ['#'] filters rfl (by decide)
      exact ⟨fun _ => .inr ⟨[], [], topics, rfl, rfl, .nil⟩, fun _ => rfl⟩
    · cases topics with
      | nil =>
        refine ⟨fun hmatch => ?_, fun hmatch => absurd hmatch (not_matches_cons_nil hmulti)⟩
        by_cases hplus : level = ['+']
        · subst hplus
          cases hmatch
        · simp [levelsMatch] at hmatch
      | cons topic topics =>
        rw [levelsMatch_cons hmulti, matches_cons hmulti, levelsMatch_iff (wildcards_cons.mp h).2]

/-! ## Filters -/

/-- A filter without regard to sharing. -/
structure PlainFilter (filter : String) : Prop where
  nonempty : filter ≠ ""
  short : strLen filter ≤ 65535
  clean : '\x00' ∉ filter.toList
  wildcards : Wildcards (filter.toList.splitOn '/')

theorem validateTopicFilter_eq_ok {filter : String} :
    validateTopicFilter filter = .ok () ↔ PlainFilter filter := by
  have hclean : validateMqttUtf8String filter = .ok () ↔ '\x00' ∉ filter.toList := by
    unfold validateMqttUtf8String
    split <;> simp_all
  simp only [validateTopicFilter, check_bind_eq_ok, require_eq_ok, rejectIf_eq_ok, not_lt,
    validateLevels_eq_ok, hclean]
  exact ⟨fun h => ⟨h.2.1, h.2.2.1, h.1, h.2.2.2⟩, fun h => ⟨h.clean, h.nonempty, h.short, h.wildcards⟩⟩

/-- No level contains the separator. -/
theorem notMem_of_mem_splitOn {a : Char} : ∀ {text level : List Char}, level ∈ text.splitOn a →
    a ∉ level
  | [], level, h => by
    rw [List.splitOn_nil, List.mem_singleton] at h
    exact h ▸ List.not_mem_nil
  | c :: text, level, h => by
    rw [List.splitOn_cons_eq_if_modifyHead] at h
    obtain ⟨first, rest, hsplit⟩ := List.exists_cons_of_ne_nil (List.splitOn_ne_nil a text)
    have ih : ∀ l ∈ first :: rest, a ∉ l := fun l hl => notMem_of_mem_splitOn (hsplit ▸ hl)
    rw [hsplit] at h
    split at h
    · rcases List.mem_cons.mp h with rfl | h
      · exact List.not_mem_nil
      · exact ih level h
    next hne =>
      rcases List.mem_cons.mp h with rfl | h
      · intro hmem
        rcases List.mem_cons.mp hmem with rfl | hmem
        · exact hne (beq_self_eq_true a)
        · exact ih first List.mem_cons_self hmem
      · exact ih level (List.mem_cons_of_mem _ h)

/-- A filter for a group of subscribers: `$share/NAME/FILTER`. -/
def SharedFilter (filter : String) : Prop :=
  ∃ name actual : String, filter = "$share/" ++ name ++ "/" ++ actual ∧ name ≠ "" ∧
    '/' ∉ name.toList ∧ '+' ∉ name.toList ∧ '#' ∉ name.toList ∧ PlainFilter actual

theorem isShared_iff {filter : String} :
    isShared filter = true ↔ ∃ rest, filter = "$share/" ++ rest := by
  rw [isShared, List.isPrefixOf_iff_prefix]
  constructor
  · rintro ⟨rest, hrest⟩
    refine ⟨String.ofList rest, String.toList_inj.mp ?_⟩
    rw [← hrest, String.toList_append]
    exact congrArg _ String.toList_ofList.symm
  · rintro ⟨rest, rfl⟩
    exact ⟨rest.toList, by rw [String.toList_append]⟩

theorem validateSharedSubscription_of_shared {filter : String} (h : isShared filter = true) :
    validateSharedSubscription filter = .ok () ↔ SharedFilter filter := by
  obtain ⟨rest, rfl⟩ := isShared_iff.mp h
  have hsplit : ("$share/" ++ rest).toList.splitOn '/' =
      "$share".toList :: rest.toList.splitOn '/' := by
    have hname : '/' ∉ "$share".toList := by decide
    rw [String.toList_append]
    exact List.splitOn_append_cons_self_of_not_mem hname rest.toList
  rw [validateSharedSubscription, if_pos h, hsplit]
  constructor
  · intro hok
    rcases hrest : rest.toList.splitOn '/' with _ | ⟨name, _ | ⟨part, parts⟩⟩
    · exact absurd hrest (List.splitOn_ne_nil _ _)
    · rw [hrest] at hok
      cases hok
    · rw [hrest] at hok
      simp only [check_bind_eq_ok, require_eq_ok, not_or, validateTopicFilter_eq_ok] at hok
      obtain ⟨⟨hname, hplus, hhash⟩, -, hactual⟩ := hok
      refine ⟨String.ofList name, _, String.toList_inj.mp ?_, fun h => hname ?_, ?_, ?_, ?_, hactual⟩
      · have hjoin : ['/'].intercalate (rest.toList.splitOn '/') = rest.toList :=
          List.intercalate_splitOn '/'
        rw [hrest] at hjoin
        simp only [String.toList_append, String.toList_ofList, ← hjoin]
        simp [List.intercalate]
      · rw [← String.toList_ofList (l := name), h]
        rfl
      · rw [String.toList_ofList]
        exact notMem_of_mem_splitOn (hrest ▸ List.mem_cons_self)
      · rwa [String.toList_ofList]
      · rwa [String.toList_ofList]
  · rintro ⟨name, actual, heq, hname, hslash, hplus, hhash, hactual⟩
    have hrest : rest.toList = name.toList ++ '/' :: actual.toList := by
      have hlist := congrArg String.toList heq
      simp only [String.toList_append, List.append_assoc] at hlist
      exact List.append_cancel_left hlist
    rw [hrest, List.splitOn_append_cons_self_of_not_mem hslash]
    obtain ⟨part, parts, hparts⟩ := List.exists_cons_of_ne_nil (List.splitOn_ne_nil '/' actual.toList)
    have hjoin : List.intercalate ['/'] (part :: parts) = actual.toList := by
      rw [← hparts]
      exact List.intercalate_splitOn '/'
    rw [hparts]
    simp only [check_bind_eq_ok, require_eq_ok, not_or, hjoin, String.ofList_toList,
      validateTopicFilter_eq_ok]
    refine ⟨⟨fun h => hname (String.toList_inj.mp h), hplus, hhash⟩, fun h => ?_, hactual⟩
    exact hactual.nonempty (String.toList_inj.mp h)

/-- What the two validators accept together. -/
theorem topicFilter_exact (filter : String) :
    validateTopicFilter filter = .ok () ∧ validateSharedSubscription filter = .ok () ↔
      PlainFilter filter ∧ ((∃ rest, filter = "$share/" ++ rest) → SharedFilter filter) := by
  rw [validateTopicFilter_eq_ok, ← isShared_iff]
  refine and_congr_right fun _ => ?_
  cases h : isShared filter with
  | true => simp only [validateSharedSubscription_of_shared h, true_implies]
  | false => simp [validateSharedSubscription, h]

/-- A filter that was accepted matches the topics of its levels, and with a wildcard in front
no topic of the broker itself. -/
theorem topicMatches_iff {filter topic : String} (h : validateTopicFilter filter = .ok ()) :
    topicMatches filter topic = true ↔
      Matches (filter.toList.splitOn '/') (topic.toList.splitOn '/') ∧
        ¬ (topic.toList.head? = some '$' ∧
          (filter.toList.head? = some '+' ∨ filter.toList.head? = some '#')) := by
  rw [topicMatches, ← levelsMatch_iff (validateTopicFilter_eq_ok.mp h).wildcards]
  split
  next hsystem => simp [hsystem]
  next hplain => simp [hplain]

/-- `a/#` matches `a`. -/
theorem topicMatches_iff_parent : Matches [['a'], ['#']] [['a']] :=
  ((topicMatches_iff (show validateTopicFilter "a/#" = .ok () by decide +kernel)).mp
    (show topicMatches "a/#" "a" = true by decide +kernel)).1

end FlowSdk
