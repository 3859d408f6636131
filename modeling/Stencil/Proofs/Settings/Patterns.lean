import Stencil.Proofs.Text.Pattern
import Stencil.Proofs.Text.Trimming
import Stencil.Settings.Grammar

/-!
Settings lines by patterns.  The three patterns, tried in turn with all their ways to match, read a
line like the direct reader: giving blank characters back never helps, and a group ends at the first
place from which the rest of its pattern matches.
-/
namespace Stencil.Settings

open Text Pattern

theorem Line.single_iff {t : Text} : Line.single t ↔ '\n' ∉ t := by
  simp [Line.single]

theorem Line.single_cons
    {c : Char}
    (other : c ≠ '\n')
    (t : Text) :
    Line.single (c :: t) = Line.single t := by
  rw [Bool.eq_iff_iff, Line.single_iff, Line.single_iff, List.mem_cons, not_or]
  exact and_iff_right (Ne.symm other)

theorem forall_ne_feed_iff {t : Text} : (∀ c ∈ t, (c != '\n') = true) ↔ '\n' ∉ t := by
  simp only [bne_iff_ne, ne_eq]
  exact ⟨fun others member => others '\n' member rfl,
    fun clean c member same => clean (same ▸ member)⟩

theorem all_ne_feed (t : Text) : t.all (· != '\n') = Line.single t := by
  rw [Bool.eq_iff_iff, List.all_eq_true, forall_ne_feed_iff, Line.single_iff]

theorem attempt_sign_cons
    {γ : Type}
    (sign c : Char)
    (cs : Text)
    (goOn : Text → Groups → Option γ)
    (groups : Groups) :
    (Grammar.sign sign).attempt goOn (c :: cs) groups =
      if c == sign then goOn cs groups else none :=
  rfl

theorem attempt_sign_of_blank
    {γ : Type}
    {sign c : Char}
    (ink : isBlank sign = false)
    (blank : isBlank c)
    (cs : Text)
    (goOn : Text → Groups → Option γ)
    (groups : Groups) :
    (Grammar.sign sign).attempt goOn (c :: cs) groups = none := by
  refine if_neg fun same => ?_
  rw [beq_iff_eq.1 same, ink] at blank
  cases blank

/-- What cannot begin with a blank character begins after all of them. -/
theorem attempt_blanks
    {γ : Type}
    {p : Pattern}
    {goOn : Text → Groups → Option γ}
    {groups : Groups}
    (apart : ∀ c rest, isBlank c → p.attempt goOn (c :: rest) groups = none)
    (t : Text) :
    (both Grammar.blanks p).attempt goOn t groups = p.attempt goOn (trimStart t) groups :=
  passMost_eq_of_apart apart t

/-! ## A group between blank characters -/

section Group

variable {γ δ : Type} {ends : Text → Option δ} {result : Text → δ → γ} {t n rest : Text}

/-- Ends a group at the first place after which the rest has an end. -/
def groupFrom (ends : Text → Option δ) (result : Text → δ → γ) (t : Text) : Option γ :=
  passFewest (· != '\n')
    (fun rest => (ends rest).map (result (t.take (t.length - rest.length)))) t

theorem isSome_groupFrom :
    (groupFrom ends result t).isSome ↔
      ∃ n rest, t = n ++ rest ∧ '\n' ∉ n ∧ (ends rest).isSome := by
  rw [groupFrom, isSome_passFewest]
  simp only [forall_ne_feed_iff, Option.isSome_map]

/-- Blank characters before a group do not make it longer. -/
theorem groupFrom_cons_of_blank
    (skips : ∀ rest, ends (trimStart rest) = ends rest)
    {c : Char}
    (blank : isBlank c)
    (stuck : groupFrom ends result t = none) :
    groupFrom ends result (c :: t) = none := by
  refine Option.not_isSome_iff_eq_none.1 fun reached => ?_
  obtain ⟨n, rest, parts, clean, done⟩ := isSome_groupFrom.1 reached
  have shorter : (groupFrom ends result t).isSome := by
    rw [isSome_groupFrom]
    cases n with
    | nil =>
        obtain rfl : c :: t = rest := parts
        have passed : trimStart (c :: t) = trimStart t := List.dropWhile_cons_of_pos blank
        rw [← skips, passed, skips] at done
        exact ⟨[], t, rfl, by simp, done⟩
    | cons d n =>
        obtain ⟨rfl, rfl⟩ := List.cons.inj parts
        exact ⟨n, rest, rfl, fun member => clean (List.mem_cons_of_mem c member), done⟩
  rw [stuck] at shorter
  cases shorter

theorem groupFrom_append
    (stuck : ∀ m, m ≠ [] → m <:+ n → ends (m ++ rest) = none)
    (done : (ends rest).isSome) :
    groupFrom ends result (n ++ rest) =
      if Line.single n then (ends rest).map (result n) else none := by
  have captured : (n ++ rest).take ((n ++ rest).length - rest.length) = n := by
    simp
  rw [groupFrom, passFewest_append]
  · rw [all_ne_feed, captured]
  · intro m some_left inside
    rw [stuck m some_left inside]
    rfl
  · rwa [Option.isSome_map]

/-- A group takes a trimmed text whole when nothing in it is an end. -/
theorem groupFrom_trimmed
    (skips : ∀ rest, ends (trimStart rest) = ends rest)
    (trimmed : Trimmed n)
    (stuck : ∀ c ∈ n, ∀ m, isBlank c = false → ends (c :: (m ++ rest)) = none)
    (done : (ends rest).isSome) :
    groupFrom ends result (n ++ rest) =
      if Line.single n then (ends rest).map (result n) else none := by
  refine groupFrom_append (fun m some_left inside => ?_) done
  have ink := trimStart_ne_nil_of_suffix trimmed some_left inside
  rw [← skips, trimStart_append_right ink]
  cases parts : trimStart m with
  | nil => exact absurd parts ink
  | cons c cs =>
      have first : c ∈ trimStart m := parts ▸ List.mem_cons_self
      refine stuck c (inside.subset ((List.dropWhile_suffix isBlank).subset first)) cs
        (head?_trimStart m c ?_)
      rw [parts]
      rfl

theorem groupFrom_eq_none
    (stuck : ∀ rest, rest <:+ t → ends rest = none) :
    groupFrom ends result t = none :=
  passFewest_eq_none fun rest inside => by rw [stuck rest inside, Option.map_none]

theorem attempt_group
    {name : Text}
    {last : Pattern}
    {goOn : Text → Groups → Option γ}
    {groups : Groups}
    (skips : ∀ rest, ends (trimStart rest) = ends rest)
    (after : ∀ n rest, last.attempt goOn rest (groups.put name n) = (ends rest).map (result n))
    (t : Text) :
    (both Grammar.blanks (both (group name Grammar.inner) last)).attempt goOn t groups =
      groupFrom ends result (trimStart t) := by
  have whole : ∀ s, (both (group name Grammar.inner) last).attempt goOn s groups =
      groupFrom ends result s := by
    intro s
    simp only [attempt, Grammar.inner, after]
    rfl
  show passMost isBlank (fun s => (both (group name Grammar.inner) last).attempt goOn s groups) t =
    groupFrom ends result (trimStart t)
  simp only [whole]
  exact passMost_eq (fun c s blank stuck => groupFrom_cons_of_blank skips blank stuck) t

end Group

/-! ## Remarks -/

theorem isSome_remark (line : Text) :
    (Grammar.remark.fullMatch? line).isSome = Line.isRemark (trimStart line) := by
  have apart : ∀ c rest, isBlank c →
      (maybe (both (one fun c => c == '#' || c == ';') (most (· != '\n')))).attempt finish
        (c :: rest) [] = none := by
    intro c rest blank
    have other : (c == '#' || c == ';') = false := by
      rw [Bool.or_eq_false_iff, beq_eq_false_iff_ne, beq_eq_false_iff_ne]
      constructor
      · rintro rfl
        exact absurd blank (by decide)
      · rintro rfl
        exact absurd blank (by decide)
    simp [attempt, other, finish]
  rw [fullMatch?_eq, Grammar.remark, attempt_blanks apart]
  cases trimStart line with
  | nil => rfl
  | cons c cs =>
      cases sign : c == '#' || c == ';' with
      | false => simp [attempt, sign, finish, Line.isRemark]
      | true =>
          have other : c ≠ '\n' := by
            rintro rfl
            exact absurd sign (by decide)
          have toEnd : passMost (· != '\n') (finish · []) cs =
              if cs.all (· != '\n') then some [] else none := passMost_to_end [] cs
          simp only [attempt, sign, if_pos, toEnd, finish_cons, Option.or_none, Line.isRemark,
            Bool.true_and, all_ne_feed, Line.single_cons other]
          cases Line.single cs <;> rfl

/-! ## Values -/

/-- Nothing but blank characters is left. -/
def lineEnds (rest : Text) : Option Unit :=
  if trimStart rest = [] then some () else none

theorem attempt_blanks_finish
    (rest : Text)
    (groups : Groups) :
    Grammar.blanks.attempt finish rest groups = (lineEnds rest).map fun _ => groups := by
  have passed : Grammar.blanks.attempt finish rest groups = finish (trimStart rest) groups :=
    passMost_eq_of_apart (fun c cs _ => finish_cons c cs groups) rest
  rw [passed, finish, lineEnds]
  split <;> rfl

theorem attempt_value
    (groups : Groups)
    (t : Text) :
    (both Grammar.blanks (both (group Grammar.valueGroup Grammar.inner) Grammar.blanks)).attempt
        finish t groups =
      if Line.single (trim t) then some (groups.put Grammar.valueGroup (trim t)) else none := by
  have skips : ∀ rest, lineEnds (trimStart rest) = lineEnds rest := by
    intro rest
    rw [lineEnds, trimStart_trimStart, lineEnds]
  rw [attempt_group skips fun n rest => attempt_blanks_finish rest (groups.put _ n)]
  obtain ⟨b, parts, blank⟩ := exists_trimEnd (trimStart t)
  rw [← trim] at parts
  have done : lineEnds b = some () := if_pos (trimStart_of_blank blank)
  rw [parts, groupFrom_trimmed skips (trimmed_trim t) ?_ (by rw [done]; rfl), done]
  · rfl
  · intro c _ m ink
    refine if_neg ?_
    rw [trimStart_cons_of_ink ink]
    exact List.cons_ne_nil _ _

/-! ## Headers -/

/-- A closing bracket is left, between blank characters. -/
def nameEnds (rest : Text) : Option Unit :=
  match trimStart rest with
  | [] => none
  | c :: cs => if c = ']' ∧ trimStart cs = [] then some () else none

theorem attempt_closing
    (rest : Text)
    (groups : Groups) :
    (both Grammar.blanks (both (Grammar.sign ']') Grammar.blanks)).attempt finish rest groups =
      (nameEnds rest).map fun _ => groups := by
  have apart : ∀ c r, isBlank c →
      (both (Grammar.sign ']') Grammar.blanks).attempt finish (c :: r) groups = none :=
    fun c r blank => attempt_sign_of_blank (by decide) blank r _ groups
  rw [attempt_blanks apart, nameEnds]
  cases trimStart rest with
  | nil => rfl
  | cons c cs =>
      rw [attempt, attempt_sign_cons, attempt_blanks_finish, lineEnds]
      by_cases sign : c = ']'
      · by_cases last : trimStart cs = [] <;> simp [sign, last]
      · simp [sign]

theorem trimEnd_closed
    (body : Text)
    {b : Text}
    (blank : ∀ c ∈ b, isBlank c) :
    trimEnd (body ++ ']' :: b) = body ++ [']'] := by
  rw [trimEnd_append_cons (by decide), trimEnd_of_blank blank]

theorem Line.header?_closed
    (body : Text)
    {b : Text}
    (blank : ∀ c ∈ b, isBlank c) :
    Line.header? ('[' :: (body ++ ']' :: b)) =
      if Line.single (trim body) then some (trim body) else none := by
  simp only [Line.header?, trimEnd_closed body blank, List.reverse_append, List.reverse_cons,
    List.reverse_nil, List.nil_append, List.cons_append, List.reverse_reverse]

theorem Line.header?_open
    {cs : Text}
    (opened : (trimEnd cs).getLast? ≠ some ']') :
    Line.header? ('[' :: cs) = none := by
  rw [← List.head?_reverse] at opened
  simp only [Line.header?]
  split
  · next inside closed =>
      rw [closed] at opened
      exact absurd rfl opened
  · rfl

/-- What follows an opening bracket ends with a closing one, or does not. -/
theorem closed_or_open (cs : Text) :
    (∃ body b, cs = body ++ ']' :: b ∧ ∀ c ∈ b, isBlank c) ∨
      (trimEnd cs).getLast? ≠ some ']' := by
  by_cases closed : (trimEnd cs).getLast? = some ']'
  · obtain ⟨body, ends⟩ := List.getLast?_eq_some_iff.1 closed
    obtain ⟨b, parts, blank⟩ := exists_trimEnd cs
    refine .inl ⟨body, b, ?_, blank⟩
    rw [parts, ends, List.append_assoc]
    rfl
  · exact .inr closed

theorem groupFrom_nameEnds_closed
    {γ : Type}
    (result : Text → Unit → γ)
    (body : Text)
    {b : Text}
    (blank : ∀ c ∈ b, isBlank c) :
    groupFrom nameEnds result (trimStart (body ++ ']' :: b)) =
      if Line.single (trim body) then some (result (trim body) ()) else none := by
  have skips : ∀ rest, nameEnds (trimStart rest) = nameEnds rest := by
    intro rest
    rw [nameEnds, trimStart_trimStart, nameEnds]
  obtain ⟨front, frontParts, blankFront⟩ := exists_trimStart body
  obtain ⟨back, backParts, blankBack⟩ := exists_trimEnd (trimStart body)
  rw [← trim] at backParts
  have ink : ∀ c ∈ (trimStart body ++ ']' :: b).head?, isBlank c = false := by
    intro c first
    cases parts : trimStart body with
    | nil =>
        rw [parts] at first
        cases first
        decide
    | cons d ds =>
        rw [parts] at first
        exact head?_trimStart body c (parts ▸ first)
  have whole : trimStart (body ++ ']' :: b) = trim body ++ (back ++ ']' :: b) := by
    rw [frontParts, List.append_assoc, trimStart_append_left blankFront, trimStart_of_first ink,
      ← frontParts, ← List.append_assoc, ← backParts]
  have done : nameEnds (back ++ ']' :: b) = some () := by
    rw [nameEnds, trimStart_append_left blankBack, trimStart_cons_of_ink (by decide)]
    exact if_pos ⟨rfl, trimStart_of_blank blank⟩
  rw [whole, groupFrom_trimmed skips (trimmed_trim body) ?_ (by rw [done]; rfl), done]
  · rfl
  · intro c _ m inked
    rw [nameEnds, trimStart_cons_of_ink inked]
    refine if_neg ?_
    rintro ⟨_, none⟩
    have blankSign : isBlank ']' := List.dropWhile_eq_nil_iff.1 none ']' (by simp)
    exact absurd blankSign (by decide)

theorem groupFrom_nameEnds_open
    {γ : Type}
    (result : Text → Unit → γ)
    {cs : Text}
    (opened : (trimEnd cs).getLast? ≠ some ']') :
    groupFrom nameEnds result (trimStart cs) = none := by
  refine groupFrom_eq_none fun rest inside => ?_
  obtain ⟨passed, parts⟩ := inside
  obtain ⟨front, frontParts, _⟩ := exists_trimStart cs
  obtain ⟨between, restParts, _⟩ := exists_trimStart rest
  rw [nameEnds]
  cases left : trimStart rest with
  | nil => rfl
  | cons c last =>
      refine if_neg ?_
      rintro ⟨rfl, none⟩
      have closed : cs = (front ++ passed ++ between) ++ ']' :: last := by
        rw [frontParts, ← parts, restParts, left]
        simp only [List.append_assoc]
      rw [closed, trimEnd_closed _ (List.dropWhile_eq_nil_iff.1 none),
        List.getLast?_concat] at opened
      exact opened rfl

theorem fullMatch?_header (line : Text) :
    Grammar.header.fullMatch? line =
      (Line.header? (trimStart line)).map fun name => [(Grammar.nameGroup, name)] := by
  have apart : ∀ c r, isBlank c →
      (both (Grammar.sign '[') (both Grammar.blanks
        (both (group Grammar.nameGroup Grammar.inner)
          (both Grammar.blanks (both (Grammar.sign ']') Grammar.blanks))))).attempt finish
            (c :: r) [] = none :=
    fun c r blank => attempt_sign_of_blank (by decide) blank r _ []
  have skips : ∀ rest, nameEnds (trimStart rest) = nameEnds rest := by
    intro rest
    rw [nameEnds, trimStart_trimStart, nameEnds]
  rw [fullMatch?_eq, Grammar.header, attempt_blanks apart]
  rcases trimStart line with _ | ⟨c, cs⟩
  · rfl
  · rw [attempt, attempt_sign_cons,
      attempt_group skips fun n rest => attempt_closing rest (Table.put _ n [])]
    by_cases sign : c = '['
    · subst sign
      rw [if_pos (beq_self_eq_true _)]
      rcases closed_or_open cs with ⟨body, b, rfl, blank⟩ | opened
      · rw [groupFrom_nameEnds_closed _ body blank, Line.header?_closed body blank]
        split <;> rfl
      · rw [groupFrom_nameEnds_open _ opened, Line.header?_open opened]
        rfl
    · have none : Line.header? (c :: cs) = none := by
        unfold Line.header?
        split
        · next found => exact absurd (List.cons.inj found).1 sign
        · rfl
      rw [if_neg (by simpa using sign), none]
      rfl

/-! ## Entries -/

/-- The groups of an entry. -/
def entryGroups (key : Text) : Option Text → Groups
  | none => [(Grammar.keyGroup, key)]
  | some value => [(Grammar.keyGroup, key), (Grammar.valueGroup, value)]

theorem attempt_afterKey
    (key rest : Text) :
    (both Grammar.blanks (maybe (both (Grammar.sign '=') (both Grammar.blanks
      (both (group Grammar.valueGroup Grammar.inner) Grammar.blanks))))).attempt finish rest
        (Table.put Grammar.keyGroup key []) =
      (Line.valueAfterKey? rest).map (entryGroups key) := by
  have apart : ∀ c r, isBlank c →
      (maybe (both (Grammar.sign '=') (both Grammar.blanks
        (both (group Grammar.valueGroup Grammar.inner) Grammar.blanks)))).attempt finish (c :: r)
          (Table.put Grammar.keyGroup key []) = none := by
    intro c r blank
    rw [attempt, attempt, attempt_sign_of_blank (by decide) blank, finish_cons]
    rfl
  rw [attempt_blanks apart, Line.valueAfterKey?]
  cases trimStart rest with
  | nil => rfl
  | cons c cs =>
      rw [attempt, attempt, attempt_sign_cons, attempt_value, finish_cons, Option.or_none]
      by_cases sign : c = '='
      · by_cases oneLine : Line.single (trim cs)
        · simp only [sign, oneLine]
          rfl
        · simp [sign, oneLine]
      · simp [sign]

/-- The key grows until the rest of an entry follows. -/
theorem passFewest_entry
    (key t : Text) :
    passFewest (· != '\n')
        (fun rest => (Line.valueAfterKey? rest).map
          (Line.entry ((key.reverse ++ t).take ((key.reverse ++ t).length - rest.length))))
        t =
      Line.entryFrom? key t := by
  have here : ∀ key rest : Text,
      (key.reverse ++ rest).take ((key.reverse ++ rest).length - rest.length) = key.reverse := by
    intro key rest
    simp
  induction t generalizing key with
  | nil =>
      rw [passFewest, here, Line.entryFrom?]
      cases Line.valueAfterKey? [] <;> rfl
  | cons c cs ih =>
      have later := ih (c :: key)
      rw [List.reverse_cons, List.append_assoc, List.singleton_append] at later
      rw [passFewest, here, later, Line.entryFrom?]
      cases Line.valueAfterKey? (c :: cs) with
      | some value => rfl
      | none => by_cases feed : c = '\n' <;> simp [feed]

theorem fullMatch?_entry (line : Text) :
    (Grammar.entry.fullMatch? line).map
        (fun groups => Line.entry ((groups.get? Grammar.keyGroup).getD [])
          (groups.get? Grammar.valueGroup)) =
      Line.entryFrom? [] (trimStart line) := by
  have skips : ∀ rest, Line.valueAfterKey? (trimStart rest) = Line.valueAfterKey? rest := by
    intro rest
    rw [Line.valueAfterKey?, trimStart_trimStart, Line.valueAfterKey?]
  have read : ∀ key value,
      Line.entry (((entryGroups key value).get? Grammar.keyGroup).getD [])
        ((entryGroups key value).get? Grammar.valueGroup) = .entry key value := by
    intro key value
    cases value <;> rfl
  rw [fullMatch?_eq, Grammar.entry, attempt_group skips attempt_afterKey, groupFrom,
    map_passFewest]
  simp only [Option.map_map, Function.comp_def, read]
  exact passFewest_entry [] (trimStart line)

/-! ## The three patterns in turn -/

/-- The patterns read every line like the direct reader. -/
theorem Line.match?_eq_read? (line : Text) : Line.match? line = Line.read? line := by
  simp only [Line.match?, Line.read?]
  rw [isSome_remark, fullMatch?_header, ← fullMatch?_entry]
  cases Line.isRemark (trimStart line) with
  | true => rfl
  | false =>
      cases Line.header? (trimStart line) with
      | some name => rfl
      | none => cases Grammar.entry.fullMatch? line <;> rfl

end Stencil.Settings
