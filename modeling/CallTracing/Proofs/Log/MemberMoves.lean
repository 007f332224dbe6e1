/-
  CallTracing/Proofs/Log/MemberMoves.lean
  =======================================
  **Where members stand after others were taken out.**

  Members are taken out one after the other, and each time the last member moves into the place that
  became free.  Nothing is lost that way (`takeMembers_perm`): those that are taken come in the order
  in which they are asked for, and the others are left.  But the others do not stay in their order.

  A member that is left never moves if it stands early enough, because only the last member moves and
  there are always more members than will be left in the end.  Into the place of the member that is
  taken first comes the last one, into the place of the second that before the last one, and so on;
  and if the member that came is taken out later, the next one comes into its place in turn
  (`ComesInto`).  Counted from the end, all this refers to the members as they stood at first, so it
  can be said without following the moves (`takeMembers_snd_eq_iff`).
-/
import CallTracing.Log.MemberOrder
import CallTracing.Proofs.Json.Members
import Mathlib.Data.List.Basic

namespace CallTracing.Log

variable {names : List String} {name : String} {value : Json} {members left : Members}

/-! ### Taking one member out -/

theorem takeMember_eq_none_iff : takeMember name members = none ↔ name ∉ members.map (·.1) := by
  induction members with
  | nil => simp [takeMember]
  | cons member rest ih =>
    rw [takeMember]
    by_cases hname : member.1 = name
    · simp [hname]
    · simp [hname, ih, Ne.symm hname]

theorem takeMember_eq_some (h : takeMember name members = some (value, left)) :
    ∃ before after, members = before ++ (name, value) :: after ∧
      left = before ++ lastFirst after := by
  induction members generalizing left with
  | nil => cases h
  | cons member rest ih =>
    obtain ⟨key, known⟩ := member
    rw [takeMember] at h
    split at h
    · next hname =>
      subst hname
      cases h
      exact ⟨[], rest, rfl, rfl⟩
    · obtain ⟨⟨found, kept⟩, hrest, hresult⟩ := Option.map_eq_some_iff.mp h
      cases hresult
      obtain ⟨before, after, rfl, rfl⟩ := ih hrest
      exact ⟨(key, known) :: before, after, rfl, rfl⟩

theorem lastFirst_concat (members : Members) (last : String × Json) :
    lastFirst (members ++ [last]) = last :: members := by
  unfold lastFirst
  rw [List.getLast?_concat, List.dropLast_concat]

theorem lastFirst_perm (members : Members) : (lastFirst members).Perm members := by
  rcases List.eq_nil_or_concat members with rfl | ⟨before, last, rfl⟩
  · exact .nil
  · rw [List.concat_eq_append, lastFirst_concat]
    exact (List.perm_append_singleton last before).symm

theorem takeMember_perm (h : takeMember name members = some (value, left)) :
    ((name, value) :: left).Perm members := by
  obtain ⟨before, after, rfl, rfl⟩ := takeMember_eq_some h
  exact (((lastFirst_perm after).append_left before).cons _).trans List.perm_middle.symm

/-! ### Taking several members out -/

/-- The members that have one of the names, in the order of the names. -/
def picked (names : List String) (members : Members) : Members :=
  names.filterMap fun name => (Json.lookup name members).map fun value => (name, value)

/-- The members that have none of the names, in their own order. -/
def others (names : List String) (members : Members) : Members :=
  members.filter fun member => !names.contains member.1

theorem takeMembers_cons_of_none (h : takeMember name members = none) :
    takeMembers (name :: names) members = takeMembers names members := by
  rw [takeMembers, h]

theorem takeMembers_cons_of_some (h : takeMember name members = some (value, left)) :
    takeMembers (name :: names) members =
      ((name, value) :: (takeMembers names left).1, (takeMembers names left).2) := by
  rw [takeMembers, h]

theorem takeMembers_perm (names : List String) (members : Members) :
    ((takeMembers names members).1 ++ (takeMembers names members).2).Perm members := by
  induction names generalizing members with
  | nil => exact .refl members
  | cons name names ih =>
    cases htaken : takeMember name members with
    | none =>
      rw [takeMembers_cons_of_none htaken]
      exact ih members
    | some taken =>
      obtain ⟨value, left⟩ := taken
      rw [takeMembers_cons_of_some htaken]
      exact ((ih left).cons _).trans (takeMember_perm htaken)

theorem lookup_perm {order : Members} (h : order.Perm members)
    (hnodup : (members.map (·.1)).Nodup) (name : String) :
    Json.lookup name order = Json.lookup name members := by
  have hnodup' : (order.map (·.1)).Nodup := (h.map _).nodup_iff.mpr hnodup
  refine Option.ext fun value => ?_
  rw [Json.lookup_eq_some_iff hnodup', Json.lookup_eq_some_iff hnodup, h.mem_iff]

theorem picked_perm {order : Members} (h : order.Perm members)
    (hnodup : (members.map (·.1)).Nodup) (names : List String) :
    picked names order = picked names members := by
  unfold picked
  simp only [lookup_perm h hnodup]

theorem mem_picked (hnodup : (members.map (·.1)).Nodup) {member : String × Json} :
    member ∈ picked names members ↔ member.1 ∈ names ∧ member ∈ members := by
  obtain ⟨key, known⟩ := member
  unfold picked
  rw [List.mem_filterMap]
  constructor
  · rintro ⟨name, hname, hfound⟩
    obtain ⟨value, hvalue, heq⟩ := Option.map_eq_some_iff.mp hfound
    cases heq
    exact ⟨hname, (Json.lookup_eq_some_iff hnodup).mp hvalue⟩
  · rintro ⟨hname, hmem⟩
    have hfound := (Json.lookup_eq_some_iff hnodup).mpr hmem
    exact ⟨key, hname, by rw [hfound]; rfl⟩

theorem mem_others {member : String × Json} :
    member ∈ others names members ↔ member ∈ members ∧ member.1 ∉ names := by
  unfold others
  rw [List.mem_filter]
  simp

/-- Asking for one more name, if there is a member of this name. -/
theorem picked_cons_of_some (hnames : name ∉ names) (hnodup : (members.map (·.1)).Nodup)
    (h : takeMember name members = some (value, left)) :
    picked (name :: names) members = (name, value) :: picked names left := by
  have hperm := takeMember_perm h
  have hnodup' : (((name, value) :: left).map (·.1)).Nodup := (hperm.map _).nodup_iff.mpr hnodup
  rw [← picked_perm hperm hnodup]
  unfold picked
  have hfirst : Json.lookup name ((name, value) :: left) = some value := by simp [Json.lookup]
  rw [List.filterMap_cons_some (by rw [hfirst]; rfl)]
  refine congrArg _ (List.filterMap_congr fun other hother => ?_)
  have hne : ¬name = other := by
    rintro rfl
    exact hnames hother
  rw [Json.lookup, if_neg hne]

theorem picked_cons_of_none (h : takeMember name members = none) :
    picked (name :: names) members = picked names members := by
  unfold picked
  rw [List.filterMap_cons_none]
  rw [Json.lookup_eq_none_iff.mpr (takeMember_eq_none_iff.mp h)]
  rfl

/-- Taken are the members that have one of the names, in the order of the names. -/
theorem takeMembers_fst (hnames : names.Nodup) (hnodup : (members.map (·.1)).Nodup) :
    (takeMembers names members).1 = picked names members := by
  induction names generalizing members with
  | nil => rfl
  | cons name names ih =>
    obtain ⟨hname, hrest⟩ := List.nodup_cons.mp hnames
    cases htaken : takeMember name members with
    | none => rw [takeMembers_cons_of_none htaken, picked_cons_of_none htaken, ih hrest hnodup]
    | some taken =>
      obtain ⟨value, left⟩ := taken
      have hleft : (((name, value) :: left).map (·.1)).Nodup :=
        ((takeMember_perm htaken).map _).nodup_iff.mpr hnodup
      rw [takeMembers_cons_of_some htaken, picked_cons_of_some hname hnodup htaken,
        ih hrest (List.nodup_cons.mp hleft).2]

/-- What is left has none of the names. -/
theorem not_mem_names_of_left (hnames : names.Nodup) (hnodup : (members.map (·.1)).Nodup)
    {member : String × Json} (h : member ∈ (takeMembers names members).2) :
    member.1 ∉ names := by
  intro hname
  have hperm := takeMembers_perm names members
  have hmem : member ∈ members := hperm.mem_iff.mp (List.mem_append_right _ h)
  have htaken : member ∈ (takeMembers names members).1 := by
    rw [takeMembers_fst hnames hnodup]
    exact (mem_picked hnodup).mpr ⟨hname, hmem⟩
  have hdistinct := (hperm.map (·.1)).nodup_iff.mpr hnodup
  rw [List.map_append, List.nodup_append] at hdistinct
  refine hdistinct.2.2 member.1 ?_ member.1 ?_ rfl
  · exact List.mem_map.mpr ⟨member, htaken, rfl⟩
  · exact List.mem_map.mpr ⟨member, h, rfl⟩

theorem takeMembers_snd_perm (hnames : names.Nodup) (hnodup : (members.map (·.1)).Nodup) :
    (takeMembers names members).2.Perm (others names members) := by
  have hfilter := (takeMembers_perm names members).filter fun member => !names.contains member.1
  have hpicked : (takeMembers names members).1.filter (fun member => !names.contains member.1) =
      [] := by
    rw [takeMembers_fst hnames hnodup, List.filter_eq_nil_iff]
    intro member hmember
    simp [((mem_picked hnodup).mp hmember).1]
  have hleft : (takeMembers names members).2.filter (fun member => !names.contains member.1) =
      (takeMembers names members).2 := by
    rw [List.filter_eq_self]
    intro member hmember
    simp [not_mem_names_of_left hnames hnodup hmember]
  rw [List.filter_append, hpicked, hleft] at hfilter
  exact hfilter

/-- Members are known by their names. -/
theorem picked_self (hnodup : (members.map (·.1)).Nodup) :
    picked (members.map (·.1)) members = members := by
  unfold picked
  rw [List.filterMap_map]
  refine (List.filterMap_congr fun member hmember => ?_).trans List.filterMap_some
  show (Json.lookup member.1 members).map (fun value => (member.1, value)) = some member
  rw [(Json.lookup_eq_some_iff hnodup).mpr hmember]
  rfl

/-- Members in another order are in the same one if their names are. -/
theorem eq_of_perm_of_names {order : Members} (h : order.Perm members)
    (hnodup : (members.map (·.1)).Nodup) (hnames : order.map (·.1) = members.map (·.1)) :
    order = members := by
  have horder : (order.map (·.1)).Nodup := (h.map _).nodup_iff.mpr hnodup
  rw [← picked_self horder, picked_perm h hnodup, hnames, picked_self hnodup]

/-! ### Other values under the same names -/

theorem lastFirst_mapValues (f : Json → Json) (members : Members) :
    lastFirst (Json.mapValues f members) = Json.mapValues f (lastFirst members) := by
  rcases List.eq_nil_or_concat members with rfl | ⟨before, last, rfl⟩
  · rfl
  · unfold Json.mapValues
    rw [List.concat_eq_append, List.map_append, List.map_singleton, lastFirst_concat,
      lastFirst_concat, List.map_cons]

theorem takeMember_mapValues (f : Json → Json) (name : String) (members : Members) :
    takeMember name (Json.mapValues f members) =
      (takeMember name members).map fun taken => (f taken.1, Json.mapValues f taken.2) := by
  induction members with
  | nil => rfl
  | cons member rest ih =>
    show takeMember name ((member.1, f member.2) :: Json.mapValues f rest) = _
    rw [takeMember, takeMember, ih, lastFirst_mapValues]
    split
    · rfl
    · rw [Option.map_map, Option.map_map]
      rfl

/-- Which members are taken out, and in what order they are left, is a matter of names. -/
theorem takeMembers_mapValues (f : Json → Json) (names : List String) (members : Members) :
    takeMembers names (Json.mapValues f members) =
      (Json.mapValues f (takeMembers names members).1,
        Json.mapValues f (takeMembers names members).2) := by
  induction names generalizing members with
  | nil => rfl
  | cons name names ih =>
    have hmapped := takeMember_mapValues f name members
    cases htaken : takeMember name members with
    | none =>
      rw [htaken] at hmapped
      rw [takeMembers_cons_of_none hmapped, takeMembers_cons_of_none htaken, ih]
    | some taken =>
      rw [htaken] at hmapped
      rw [takeMembers_cons_of_some hmapped, takeMembers_cons_of_some htaken, ih]
      rfl

theorem ordered_mapValues (f : Json → Json) (members : Members) :
    ordered (Json.mapValues f members) = Json.mapValues f (ordered members) := by
  unfold ordered
  rw [takeMembers_mapValues]
  exact List.map_append.symm

/-! ### Places -/

/-- What comes into the place of a member: nothing else where the member stays; where it is the
`n`-th to be taken out, whatever comes into the place of the `n`-th member from the end. -/
inductive ComesInto (names : List String) (members : Members) :
    String × Json → String × Json → Prop where
  | stays {member : String × Json} (h : member.1 ∉ names) : ComesInto names members member member
  | moves {member next last : String × Json} {n : Nat}
      (htaken : (picked names members)[n]? = some member)
      (hnext : members.reverse[n]? = some next) (hlast : ComesInto names members next last) :
      ComesInto names members member last

theorem mem_names_of_picked {member : String × Json} (h : member ∈ picked names members) :
    member.1 ∈ names := by
  obtain ⟨name, hname, hfound⟩ := List.mem_filterMap.mp h
  obtain ⟨value, -, rfl⟩ := Option.map_eq_some_iff.mp hfound
  exact hname

theorem nodup_picked (hnames : names.Nodup) : (picked names members).Nodup := by
  induction names with
  | nil => exact List.nodup_nil
  | cons name names ih =>
    obtain ⟨hname, hrest⟩ := List.nodup_cons.mp hnames
    unfold picked
    rw [List.filterMap_cons]
    split
    · exact ih hrest
    · next member hmember =>
      refine List.nodup_cons.mpr ⟨fun hmem => hname ?_, ih hrest⟩
      obtain ⟨value, -, rfl⟩ := Option.map_eq_some_iff.mp hmember
      exact mem_names_of_picked hmem

/-- One member comes into a place, and no other one. -/
theorem ComesInto.unique (hnames : names.Nodup) {member first second : String × Json}
    (hfirst : ComesInto names members member first)
    (hsecond : ComesInto names members member second) : first = second := by
  induction hfirst with
  | stays hstays =>
    cases hsecond with
    | stays _ => rfl
    | moves htaken _ _ => exact absurd (mem_names_of_picked (List.mem_of_getElem? htaken)) hstays
  | moves htaken hnext _ ih =>
    cases hsecond with
    | stays hstays => exact absurd (mem_names_of_picked (List.mem_of_getElem? htaken)) hstays
    | moves htaken' hnext' hlast' =>
      obtain ⟨hlt, -⟩ := List.getElem?_eq_some_iff.mp htaken
      have hplace := (List.getElem?_inj hlt (nodup_picked hnames)).mp (htaken.trans htaken'.symm)
      rw [← hplace, hnext, Option.some.injEq] at hnext'
      subst hnext'
      exact ih hlast'

/-- Two lists that differ in one place, one of them going on. -/
theorem getElem?_replaced {α : Type} {before mid more : List α} {x y last : α} {place : Nat}
    (h : (before ++ last :: mid)[place]? = some y) :
    (before ++ x :: (mid ++ more))[place]? = some y ∨
      (before ++ x :: (mid ++ more))[place]? = some x ∧ last = y := by
  rcases Nat.lt_trichotomy place before.length with hlt | rfl | hgt
  · rw [List.getElem?_append_left hlt] at h ⊢
    exact Or.inl h
  · rw [List.getElem?_append_right (Nat.le_refl _), Nat.sub_self] at h ⊢
    exact Or.inr ⟨rfl, Option.some.inj h⟩
  · obtain ⟨n, rfl⟩ := Nat.exists_eq_add_of_lt hgt
    have hsub : before.length + n + 1 - before.length = n + 1 := by omega
    rw [List.getElem?_append_right (by omega), hsub, List.getElem?_cons_succ] at h ⊢
    obtain ⟨hlength, -⟩ := List.getElem?_eq_some_iff.mp h
    rw [List.getElem?_append_left hlength]
    exact Or.inl h

/-- The places of what is left: only the last member has moved. -/
theorem getElem?_of_left (h : takeMember name members = some (value, left)) {place : Nat}
    {member : String × Json} (hplace : left[place]? = some member) :
    members[place]? = some member ∨
      members[place]? = some (name, value) ∧ members.reverse[0]? = some member := by
  obtain ⟨before, after, rfl, rfl⟩ := takeMember_eq_some h
  rcases List.eq_nil_or_concat after with rfl | ⟨mid, last, rfl⟩
  · have hbefore : before[place]? = some member := by simpa [lastFirst] using hplace
    obtain ⟨hlt, -⟩ := List.getElem?_eq_some_iff.mp hbefore
    rw [List.getElem?_append_left hlt]
    exact Or.inl hbefore
  · rw [List.concat_eq_append, lastFirst_concat] at *
    rcases getElem?_replaced hplace with hsame | ⟨hhole, rfl⟩
    · exact Or.inl hsame
    · exact Or.inr ⟨hhole, by simp⟩

/-- The same, counted from the end. -/
theorem getElem?_reverse_of_left (h : takeMember name members = some (value, left)) {n : Nat}
    {member : String × Json} (hplace : left.reverse[n]? = some member) :
    members.reverse[n + 1]? = some member ∨
      members.reverse[n + 1]? = some (name, value) ∧ members.reverse[0]? = some member := by
  obtain ⟨before, after, rfl, rfl⟩ := takeMember_eq_some h
  rcases List.eq_nil_or_concat after with rfl | ⟨mid, last, rfl⟩
  · refine Or.inl ?_
    rw [List.reverse_append, List.reverse_singleton]
    simpa [lastFirst] using hplace
  · rw [List.concat_eq_append, lastFirst_concat] at *
    have hleft : (before ++ last :: mid).reverse = mid.reverse ++ last :: before.reverse := by simp
    have hmembers : (before ++ (name, value) :: (mid ++ [last])).reverse =
        last :: (mid.reverse ++ (name, value) :: (before.reverse ++ [])) := by simp
    rw [hleft] at hplace
    rw [hmembers, List.getElem?_cons_succ, List.getElem?_cons_zero, Option.some.injEq]
    exact getElem?_replaced hplace

theorem ComesInto.of_absent (h : takeMember name members = none) {member last : String × Json}
    (hmember : member ∈ members) (hcomes : ComesInto names members member last) :
    ComesInto (name :: names) members member last := by
  have hne : ∀ other ∈ members, other.1 ≠ name := by
    rintro other hother rfl
    exact takeMember_eq_none_iff.mp h (List.mem_map.mpr ⟨other, hother, rfl⟩)
  induction hcomes with
  | stays hstays => exact .stays (by simp [hne _ hmember, hstays])
  | moves htaken hnext _ ih =>
    have hmem := List.mem_reverse.mp (List.mem_of_getElem? hnext)
    rw [← picked_cons_of_none h] at htaken
    exact .moves htaken hnext (ih hmem)

/-- Taking one more member out before the others. -/
theorem ComesInto.of_left (hname : name ∉ names) (hnodup : (members.map (·.1)).Nodup)
    (h : takeMember name members = some (value, left)) {member last : String × Json}
    (hmember : member ∈ left) (hcomes : ComesInto names left member last) :
    ComesInto (name :: names) members member last := by
  have hpicked := picked_cons_of_some hname hnodup h
  have hleft : (((name, value) :: left).map (·.1)).Nodup :=
    ((takeMember_perm h).map _).nodup_iff.mpr hnodup
  have hne : ∀ other ∈ left, other.1 ≠ name := by
    rintro other hother rfl
    exact (List.nodup_cons.mp hleft).1 (List.mem_map.mpr ⟨other, hother, rfl⟩)
  induction hcomes with
  | stays hstays => exact .stays (by simp [hne _ hmember, hstays])
  | @moves member next last n htaken hnext _ ih =>
    have hlast := ih (List.mem_reverse.mp (List.mem_of_getElem? hnext))
    have hlater : (picked (name :: names) members)[n + 1]? = some member := by
      rw [hpicked, List.getElem?_cons_succ]
      exact htaken
    rcases getElem?_reverse_of_left h hnext with hsame | ⟨hhole, hfirst⟩
    · exact .moves hlater hsame hlast
    · -- the last member stood in for the one taken out first
      have hsooner : (picked (name :: names) members)[0]? = some (name, value) := by
        rw [hpicked]
        rfl
      exact .moves hlater hhole (.moves hsooner hfirst hlast)

/-- In every place of what is left stands the member that comes into this place. -/
theorem comesInto_of_getElem? (hnames : names.Nodup) (hnodup : (members.map (·.1)).Nodup)
    {place : Nat} {last : String × Json}
    (h : (takeMembers names members).2[place]? = some last) :
    ∃ member, members[place]? = some member ∧ ComesInto names members member last := by
  induction names generalizing members with
  | nil => exact ⟨last, h, .stays List.not_mem_nil⟩
  | cons name names ih =>
    obtain ⟨hname, hrest⟩ := List.nodup_cons.mp hnames
    cases htaken : takeMember name members with
    | none =>
      rw [takeMembers_cons_of_none htaken] at h
      obtain ⟨member, hplace, hcomes⟩ := ih hrest hnodup h
      exact ⟨member, hplace, hcomes.of_absent htaken (List.mem_of_getElem? hplace)⟩
    | some taken =>
      obtain ⟨value, left⟩ := taken
      have hleft : (((name, value) :: left).map (·.1)).Nodup :=
        ((takeMember_perm htaken).map _).nodup_iff.mpr hnodup
      rw [takeMembers_cons_of_some htaken] at h
      obtain ⟨member, hplace, hcomes⟩ := ih hrest (List.nodup_cons.mp hleft).2 h
      have hcomes' := hcomes.of_left hname hnodup htaken (List.mem_of_getElem? hplace)
      rcases getElem?_of_left htaken hplace with hsame | ⟨hhole, hfirst⟩
      · exact ⟨member, hsame, hcomes'⟩
      · have hsooner : (picked (name :: names) members)[0]? = some (name, value) := by
          rw [picked_cons_of_some hname hnodup htaken]
          rfl
        exact ⟨(name, value), hhole, .moves hsooner hfirst hcomes'⟩

/-- Members that stand in some order are those that are left, in the order in which they are left,
just where each of them comes into its place. -/
theorem takeMembers_snd_eq_iff (hnames : names.Nodup) (hnodup : (members.map (·.1)).Nodup)
    {order : Members} (hlength : order.length = (others names members).length) :
    (takeMembers names members).2 = order ↔
      ∀ (place : Nat) last, order[place]? = some last →
        ∃ member, members[place]? = some member ∧ ComesInto names members member last := by
  constructor
  · rintro rfl place last h
    exact comesInto_of_getElem? hnames hnodup h
  · intro h
    have hleft := (takeMembers_snd_perm hnames hnodup).length_eq
    refine List.ext_getElem (hleft.trans hlength.symm) fun place hplace hplace' => ?_
    obtain ⟨member, hmember, hcomes⟩ :=
      comesInto_of_getElem? hnames hnodup (List.getElem?_eq_getElem hplace)
    obtain ⟨member', hmember', hcomes'⟩ := h place _ (List.getElem?_eq_getElem hplace')
    rw [hmember, Option.some.injEq] at hmember'
    subst hmember'
    exact hcomes.unique hnames hcomes'

/-! ### Taking members out once more -/

theorem exists_ends {α : Type} {items : List α} (h : 1 < items.length) :
    ∃ first between last, items = first :: (between ++ [last]) := by
  cases items with
  | nil => exact absurd h (Nat.not_lt_zero 1)
  | cons first rest =>
    rcases List.eq_nil_or_concat rest with rfl | ⟨between, last, rfl⟩
    · exact absurd h (Nat.lt_irrefl 1)
    · exact ⟨first, between, last, by rw [List.concat_eq_append]⟩

/-- Members that stand in front were taken out; taking them out again keeps the others in their
order just where there are none to be taken out, or one other member at most. -/
theorem takeMembers_again_iff (hnames : names.Nodup) {front rest : Members}
    (hnodup : ((front ++ rest).map (·.1)).Nodup)
    (hfront : picked names (front ++ rest) = front) (hrest : others names (front ++ rest) = rest) :
    (takeMembers names (front ++ rest)).2 = rest ↔ front = [] ∨ rest.length ≤ 1 := by
  have hperm := takeMembers_snd_perm hnames hnodup
  rw [hrest] at hperm
  constructor
  · intro hsame
    by_contra hnot
    rw [not_or] at hnot
    obtain ⟨hne, hlength⟩ := hnot
    obtain ⟨first, more, rfl⟩ := List.exists_cons_of_ne_nil hne
    obtain ⟨x, between, y, rfl⟩ := exists_ends (Nat.lt_of_not_le hlength)
    -- the last of the others comes into the place of the first member that is taken out
    have hlast : ComesInto names (first :: more ++ x :: (between ++ [y])) first y := by
      have htaken : (picked names (first :: more ++ x :: (between ++ [y])))[0]? = some first := by
        rw [hfront]
        rfl
      have hnext : (first :: more ++ x :: (between ++ [y])).reverse[0]? = some y := by simp
      have hy : y ∈ others names (first :: more ++ x :: (between ++ [y])) := by
        rw [hrest]
        simp
      exact .moves htaken hnext (.stays (mem_others.mp hy).2)
    obtain ⟨member, hmember, hcomes⟩ :=
      (takeMembers_snd_eq_iff hnames hnodup (by rw [hrest])).mp hsame 0 x rfl
    obtain rfl := Option.some.inj hmember
    have hxy : x = y := hcomes.unique hnames hlast
    subst hxy
    rw [List.map_append, List.nodup_append] at hnodup
    refine (List.nodup_cons.mp hnodup.2.1).1 (List.mem_map.mpr ⟨x, ?_, rfl⟩)
    exact List.mem_append_right between (List.mem_singleton_self x)
  · rintro (rfl | hlength)
    · refine (takeMembers_snd_eq_iff hnames hnodup (by rw [hrest])).mpr fun place last hplace => ?_
      refine ⟨last, hplace, .stays ?_⟩
      have hmem := List.mem_of_getElem? hplace
      rw [← hrest] at hmem
      exact (mem_others.mp hmem).2
    · cases rest with
      | nil => exact List.Perm.eq_nil hperm
      | cons only rest =>
        obtain rfl : rest = [] := List.eq_nil_of_length_eq_zero (by simpa using hlength)
        exact List.perm_singleton.mp hperm

end CallTracing.Log
