import Mathlib.Data.List.Basic

set_option autoImplicit false

/-! # Patterns that are matched by backtracking

A pattern is matched at the front of a text. `Regex.results` lists the ways to do so in the order in
which a backtracking matcher tries them, so the match it finds is the first one. A repetition is one
of single characters, greedy or lazy.

`Takes` is the calculus of first matches: a rule for each construct, and `takes_lazy_seq` for the
search that a lazy repetition makes. `Lang` says which texts a pattern stands for where a given text
follows; these are the ones that are matched (`sound`, `complete`). -/

/-- A pattern over characters `α` with groups named in `ν`. -/
inductive Regex (ν α : Type)
  | lit (text : List α)
  | one (cls : α → Bool)
  /-- Characters of a class, as many as there are first, or as few. -/
  | many (greedy : Bool) (cls : α → Bool)
  | seq (r s : Regex ν α)
  | alt (r s : Regex ν α)
  | group (name : ν) (r : Regex ν α)
  /-- A condition on what follows. -/
  | ahead (p : List α → Bool)

namespace Regex

variable {ν α : Type}

/-- A match: what the groups hold, what is matched, and what follows. -/
structure Match (ν α : Type) where
  groups : List (ν × List α)
  text : List α
  rest : List α

/-- One match after another. -/
def Match.after (m n : Match ν α) : Match ν α := ⟨m.groups ++ n.groups, m.text ++ n.text, n.rest⟩

@[simp] theorem Match.after_mk (gs gs' : List (ν × List α)) (u v t t' : List α) :
    Match.after ⟨gs, u, t⟩ ⟨gs', v, t'⟩ = ⟨gs ++ gs', u ++ v, t'⟩ := rfl

/-- One or more characters of a class. -/
def plus (greedy : Bool) (cls : α → Bool) : Regex ν α := seq (one cls) (many greedy cls)

/-- A pattern or nothing. -/
def opt (r : Regex ν α) : Regex ν α := alt r (lit [])

/-- A number of characters of a class. -/
def times (cls : α → Bool) : Nat → Regex ν α
  | 0 => lit []
  | n + 1 => seq (one cls) (times cls n)

/-- Patterns one after the other. -/
def seqs : List (Regex ν α) → Regex ν α
  | [] => lit []
  | [r] => r
  | r :: rs => seq r (seqs rs)

/-- What characters of the class at the front can be cut off, the shortest first, with the rest. -/
def cuts (cls : α → Bool) : List α → List (List α × List α)
  | [] => [([], [])]
  | c :: t =>
      ([], c :: t) :: if cls c then (cuts cls t).map fun cut => (c :: cut.1, cut.2) else []

theorem cuts_nil (cls : α → Bool) : cuts cls [] = [([], [])] := rfl

theorem cuts_cons (cls : α → Bool) (c : α) (t : List α) : cuts cls (c :: t) =
    ([], c :: t) :: if cls c then (cuts cls t).map fun cut => (c :: cut.1, cut.2) else [] := rfl

variable [DecidableEq α]

/-- The ways to match a pattern at the front of a text, in the order they are tried. -/
def results : Regex ν α → List α → List (Match ν α)
  | lit text, t => if text.isPrefixOf t then [⟨[], text, t.drop text.length⟩] else []
  | one _, [] => []
  | one cls, c :: t => if cls c then [⟨[], [c], t⟩] else []
  | many greedy cls, t =>
      ((if greedy then (cuts cls t).reverse else cuts cls t)).map fun cut => ⟨[], cut.1, cut.2⟩
  | seq r s, t => (r.results t).flatMap fun m => (s.results m.rest).map m.after
  | alt r s, t => r.results t ++ s.results t
  | group name r, t =>
      (r.results t).map fun m => { m with groups := (name, m.text) :: m.groups }
  | ahead p, t => if p t then [⟨[], [], t⟩] else []

section Equations

variable (t : List α)

theorem results_lit (u : List α) : (lit u : Regex ν α).results t =
    if u.isPrefixOf t then [⟨[], u, t.drop u.length⟩] else [] := rfl

theorem results_one_cons (cls : α → Bool) (c : α) : (one cls : Regex ν α).results (c :: t) =
    if cls c then [⟨[], [c], t⟩] else [] := rfl

theorem results_many (greedy : Bool) (cls : α → Bool) :
    (many greedy cls : Regex ν α).results t =
      (if greedy then (cuts cls t).reverse else cuts cls t).map fun cut => ⟨[], cut.1, cut.2⟩ := rfl

theorem results_seq (r s : Regex ν α) : (seq r s).results t =
    (r.results t).flatMap fun m => (s.results m.rest).map m.after := rfl

theorem results_alt (r s : Regex ν α) : (alt r s).results t = r.results t ++ s.results t := rfl

theorem results_group (name : ν) (r : Regex ν α) : (group name r).results t =
    (r.results t).map fun m => { m with groups := (name, m.text) :: m.groups } := rfl

theorem results_ahead (p : List α → Bool) : (ahead p : Regex ν α).results t =
    if p t then [⟨[], [], t⟩] else [] := rfl

end Equations

/-- The match that is found at the front. -/
def first (r : Regex ν α) (t : List α) : Option (Match ν α) := (r.results t).head?

/-- The pattern matches somewhere. -/
def anywhere (r : Regex ν α) (t : List α) : Bool := t.tails.any fun u => (r.first u).isSome

/-- The matches from left to right, of a pattern that does not match the empty text. `fuel` bounds
    the number of characters read. -/
def findAll (r : Regex ν α) : Nat → List α → List (Match ν α)
  | 0, _ => []
  | _ + 1, [] => []
  | fuel + 1, c :: t =>
      match r.first (c :: t) with
      | some m => m :: findAll r fuel m.rest
      | none => findAll r fuel t

/-! ## First matches -/

/-- The first match of a pattern at the front of a text. -/
def Takes (r : Regex ν α) (t : List α) (m : Match ν α) : Prop := r.first t = some m

variable {r s : Regex ν α} {t : List α} {m n : Match ν α}

theorem takes_iff : Takes r t m ↔ ∃ ms, r.results t = m :: ms := by
  rw [Takes, first, List.head?_eq_some_iff]

theorem takes_lit (u t : List α) : Takes (lit u : Regex ν α) (u ++ t) ⟨[], u, t⟩ := by
  rw [Takes, first, results_lit, if_pos (by simp)]
  simp

theorem results_lit_of_ne {c d : α} (h : c ≠ d) (u t : List α) :
    (lit (c :: u) : Regex ν α).results (d :: t) = [] := by
  rw [results_lit, if_neg (by simp [h])]

theorem takes_one {cls : α → Bool} {c : α} (h : cls c = true) (t : List α) :
    Takes (one cls : Regex ν α) (c :: t) ⟨[], [c], t⟩ := by
  rw [Takes, first, results_one_cons, if_pos h]
  rfl

theorem takes_seq (hr : Takes r t m) (hs : Takes s m.rest n) : Takes (seq r s) t (m.after n) := by
  obtain ⟨ms, hms⟩ := takes_iff.1 hr
  obtain ⟨ns, hns⟩ := takes_iff.1 hs
  exact takes_iff.2 ⟨_, by rw [results_seq, hms, List.flatMap_cons, hns]; rfl⟩

/-- A list of patterns, from its end. -/
theorem takes_last (h : Takes r t m) : Takes (seqs [r]) t m := h

theorem takes_seqs {r' : Regex ν α} {rs : List (Regex ν α)} (hr : Takes r t m)
    (hs : Takes (seqs (r' :: rs)) m.rest n) : Takes (seqs (r :: r' :: rs)) t (m.after n) :=
  takes_seq hr hs

theorem takes_alt_left (h : Takes r t m) (s : Regex ν α) : Takes (alt r s) t m := by
  obtain ⟨ms, hms⟩ := takes_iff.1 h
  exact takes_iff.2 ⟨_, by rw [results_alt, hms, List.cons_append]⟩

theorem takes_alt_right (hr : r.results t = []) (h : Takes s t m) : Takes (alt r s) t m := by
  rw [Takes, first, results_alt, hr]
  exact h

theorem takes_opt_none (h : r.results t = []) : Takes (opt r) t ⟨[], [], t⟩ :=
  takes_alt_right h (takes_lit [] t)

theorem takes_group (h : Takes r t m) (name : ν) :
    Takes (group name r) t { m with groups := (name, m.text) :: m.groups } := by
  obtain ⟨ms, hms⟩ := takes_iff.1 h
  exact takes_iff.2 ⟨_, by rw [results_group, hms, List.map_cons]⟩

theorem takes_ahead {p : List α → Bool} (h : p t = true) :
    Takes (ahead p : Regex ν α) t ⟨[], [], t⟩ := by
  rw [Takes, first, results_ahead, if_pos h]
  rfl

/-- Nothing of the class comes next. -/
def Stops (cls : α → Bool) (t : List α) : Prop := ∀ c ∈ t.head?, cls c = false

omit [DecidableEq α] in
theorem cuts_of_stops {cls : α → Bool} (h : Stops cls t) : cuts cls t = [([], t)] := by
  cases t with
  | nil => rfl
  | cons c t => rw [cuts_cons, if_neg (by simp [h c rfl])]

omit [DecidableEq α] in
/-- The longest cut is the whole run of characters of the class. -/
theorem cuts_append {cls : α → Bool} {u : List α} (hu : ∀ c ∈ u, cls c = true) (h : Stops cls t) :
    ∃ shorter, cuts cls (u ++ t) = shorter ++ [(u, t)] := by
  induction u with
  | nil => exact ⟨[], cuts_of_stops h⟩
  | cons c u ih =>
      obtain ⟨shorter, heq⟩ := ih fun d hd => hu d (List.mem_cons_of_mem c hd)
      refine ⟨([], c :: (u ++ t)) :: shorter.map fun cut => (c :: cut.1, cut.2), ?_⟩
      rw [List.cons_append, cuts_cons, if_pos (hu c List.mem_cons_self), heq]
      simp

theorem takes_many {cls : α → Bool} {u : List α} (hu : ∀ c ∈ u, cls c = true)
    (h : Stops cls t) : Takes (many true cls : Regex ν α) (u ++ t) ⟨[], u, t⟩ := by
  obtain ⟨shorter, heq⟩ := cuts_append hu h
  rw [Takes, first, results_many, if_pos rfl, heq]
  simp

theorem takes_plus {cls : α → Bool} {u : List α} (hne : u ≠ []) (hu : ∀ c ∈ u, cls c = true)
    (h : Stops cls t) : Takes (plus true cls : Regex ν α) (u ++ t) ⟨[], u, t⟩ := by
  cases u with
  | nil => exact absurd rfl hne
  | cons c u =>
      exact takes_seq (takes_one (hu c List.mem_cons_self) _)
        (takes_many (fun d hd => hu d (List.mem_cons_of_mem c hd)) h)

theorem takes_times {cls : α → Bool} {u : List α} (hu : ∀ c ∈ u, cls c = true) (t : List α) :
    Takes (times cls u.length : Regex ν α) (u ++ t) ⟨[], u, t⟩ := by
  induction u with
  | nil => exact takes_lit [] t
  | cons c u ih =>
      exact takes_seq (takes_one (hu c List.mem_cons_self) _)
        (ih fun d hd => hu d (List.mem_cons_of_mem c hd))

/-- **A lazy repetition searches**: it takes what lies before the first place where the rest of the
pattern matches. -/
theorem takes_lazy_seq {cls : α → Bool} {u : List α} (hu : ∀ c ∈ u, cls c = true)
    (hnone : ∀ v w, u = v ++ w → w ≠ [] → s.results (w ++ t) = []) (h : Takes s t m) :
    Takes (seq (many false cls) s) (u ++ t) ⟨m.groups, u ++ m.text, m.rest⟩ := by
  have hcuts : ∀ (u v : List α), (∀ c ∈ u, cls c = true) →
      (∀ v' w, u = v' ++ w → w ≠ [] → s.results (w ++ t) = []) →
      ∃ ms, ((cuts cls (u ++ t)).flatMap fun cut => (s.results cut.2).map
        (Match.after ⟨[], v ++ cut.1, cut.2⟩)) = ⟨m.groups, v ++ u ++ m.text, m.rest⟩ :: ms := by
    intro u
    induction u with
    | nil =>
        intro v _ _
        obtain ⟨ms, hms⟩ := takes_iff.1 h
        cases t with
        | nil => exact ⟨_, by simp [cuts_nil, hms, Match.after]; rfl⟩
        | cons c t => exact ⟨_, by simp [cuts_cons, hms, Match.after]; rfl⟩
    | cons c u ih =>
        intro v hu hnone
        obtain ⟨ms, hms⟩ := ih (v ++ [c]) (fun d hd => hu d (List.mem_cons_of_mem c hd))
          fun v' w heq hw => hnone (c :: v') w (by rw [heq]; rfl) hw
        have hhere := hnone [] (c :: u) rfl (by simp)
        refine ⟨ms, ?_⟩
        rw [List.cons_append, cuts_cons, if_pos (hu c List.mem_cons_self), List.flatMap_cons,
          List.flatMap_map]
        simp only [← List.cons_append, hhere, List.map_nil, List.nil_append]
        simpa using hms
  obtain ⟨ms, hms⟩ := hcuts u [] hu hnone
  refine takes_iff.2 ⟨ms, ?_⟩
  rw [results_seq, results_many, if_neg (by simp), List.flatMap_map]
  simpa using hms

/-! ## The texts of a pattern -/

/-- The texts a pattern stands for, where another text follows. -/
def Lang : Regex ν α → List α → List α → Prop
  | lit text, u, _ => u = text
  | one cls, u, _ => ∃ c, u = [c] ∧ cls c = true
  | many _ cls, u, _ => ∀ c ∈ u, cls c = true
  | seq r s, u, t => ∃ v w, u = v ++ w ∧ r.Lang v (w ++ t) ∧ s.Lang w t
  | alt r s, u, t => r.Lang u t ∨ s.Lang u t
  | group _ r, u, t => r.Lang u t
  | ahead p, u, t => u = [] ∧ p t = true

omit [DecidableEq α] in
/-- The cuts of a text are those into characters of the class and the rest. -/
theorem mem_cuts_iff {cls : α → Bool} {u v : List α} :
    (u, v) ∈ cuts cls t ↔ t = u ++ v ∧ ∀ c ∈ u, cls c = true := by
  have hnil : ∀ t : List α, ([], v) ∈ cuts cls t ↔ t = v := by
    intro t
    cases t with
    | nil =>
        constructor
        · exact fun h => (Prod.mk.inj (List.mem_singleton.1 h)).2.symm
        · rintro rfl
          exact List.mem_cons_self
    | cons c t =>
        constructor
        · intro h
          rcases List.mem_cons.1 h with heq | h
          · exact (Prod.mk.inj heq).2.symm
          · split at h
            case isFalse => simp at h
            case isTrue => simp at h
        · rintro rfl
          exact List.mem_cons_self
  induction u generalizing t with
  | nil => simp [hnil]
  | cons d u ih =>
      cases t with
      | nil => simp [cuts_nil]
      | cons c t =>
          have hcons : (d :: u, v) ∈ cuts cls (c :: t) ↔
              cls c = true ∧ c = d ∧ (u, v) ∈ cuts cls t := by
            by_cases hc : cls c = true
            · simp [cuts_cons, hc, and_comm]
            · simp [cuts_cons, hc]
          rw [hcons, List.forall_mem_cons]
          constructor
          · rintro ⟨hc, rfl, hcut⟩
            obtain ⟨rfl, hall⟩ := ih.1 hcut
            exact ⟨rfl, hc, hall⟩
          · rintro ⟨heq, hd, hall⟩
            obtain ⟨rfl, rfl⟩ := List.cons.inj heq
            exact ⟨hd, rfl, ih.2 ⟨rfl, hall⟩⟩

/-- **Only the texts of a pattern are matched.** -/
theorem sound (r : Regex ν α) : ∀ {t : List α} {m : Match ν α}, m ∈ r.results t →
    t = m.text ++ m.rest ∧ r.Lang m.text m.rest := by
  induction r with
  | lit text =>
      intro t m h
      rw [results_lit] at h
      split at h
      case isFalse => simp at h
      case isTrue hpre =>
        obtain rfl := List.mem_singleton.1 h
        obtain ⟨rest, rfl⟩ := List.isPrefixOf_iff_prefix.1 hpre
        simp [Lang]
  | one cls =>
      intro t m h
      cases t with
      | nil => exact absurd h List.not_mem_nil
      | cons c t =>
          rw [results_one_cons] at h
          split at h
          case isFalse => simp at h
          case isTrue hc =>
            obtain rfl := List.mem_singleton.1 h
            exact ⟨rfl, c, rfl, hc⟩
  | many greedy cls =>
      intro t m h
      rw [results_many] at h
      obtain ⟨cut, hcut, rfl⟩ := List.mem_map.1 h
      cases greedy with
      | true => exact mem_cuts_iff.1 (List.mem_reverse.1 hcut)
      | false => exact mem_cuts_iff.1 hcut
  | seq r s ihr ihs =>
      intro t m h
      rw [results_seq] at h
      obtain ⟨m₁, hm₁, h⟩ := List.mem_flatMap.1 h
      obtain ⟨m₂, hm₂, rfl⟩ := List.mem_map.1 h
      obtain ⟨heq₁, hlang₁⟩ := ihr hm₁
      obtain ⟨heq₂, hlang₂⟩ := ihs hm₂
      rw [heq₂] at hlang₁
      exact ⟨by rw [heq₁, heq₂, Match.after, List.append_assoc], _, _, rfl, hlang₁, hlang₂⟩
  | alt r s ihr ihs =>
      intro t m h
      rw [results_alt] at h
      rcases List.mem_append.1 h with h | h
      · exact ⟨(ihr h).1, Or.inl (ihr h).2⟩
      · exact ⟨(ihs h).1, Or.inr (ihs h).2⟩
  | group name r ih =>
      intro t m h
      rw [results_group] at h
      obtain ⟨m', hm, rfl⟩ := List.mem_map.1 h
      obtain ⟨heq, hlang⟩ := ih hm
      exact ⟨heq, hlang⟩
  | ahead p =>
      intro t m h
      rw [results_ahead] at h
      split at h
      case isFalse => simp at h
      case isTrue hp =>
        obtain rfl := List.mem_singleton.1 h
        exact ⟨rfl, rfl, hp⟩

/-- **Every text of a pattern is matched**, if not as the first one. -/
theorem complete (r : Regex ν α) : ∀ {u t : List α}, r.Lang u t →
    ∃ gs, ⟨gs, u, t⟩ ∈ r.results (u ++ t) := by
  induction r with
  | lit text =>
      rintro u t rfl
      exact ⟨[], List.mem_of_mem_head? (takes_lit u t)⟩
  | one cls =>
      rintro u t ⟨c, rfl, hc⟩
      exact ⟨[], List.mem_of_mem_head? (takes_one hc t)⟩
  | many greedy cls =>
      intro u t h
      have hcut : (u, t) ∈ cuts cls (u ++ t) := mem_cuts_iff.2 ⟨rfl, h⟩
      refine ⟨[], List.mem_map.2 ⟨(u, t), ?_, rfl⟩⟩
      cases greedy with
      | true => exact List.mem_reverse.2 hcut
      | false => exact hcut
  | seq r s ihr ihs =>
      rintro u t ⟨v, w, rfl, hr, hs⟩
      obtain ⟨gs, hgs⟩ := ihr hr
      obtain ⟨gs', hgs'⟩ := ihs hs
      rw [← List.append_assoc] at hgs
      exact ⟨gs ++ gs', List.mem_flatMap.2 ⟨_, hgs, List.mem_map.2 ⟨_, hgs', rfl⟩⟩⟩
  | alt r s ihr ihs =>
      rintro u t (h | h)
      · obtain ⟨gs, hgs⟩ := ihr h
        exact ⟨gs, List.mem_append_left _ hgs⟩
      · obtain ⟨gs, hgs⟩ := ihs h
        exact ⟨gs, List.mem_append_right _ hgs⟩
  | group name r ih =>
      intro u t h
      obtain ⟨gs, hgs⟩ := ih h
      exact ⟨_, List.mem_map.2 ⟨_, hgs, rfl⟩⟩
  | ahead p =>
      rintro u t ⟨rfl, hp⟩
      exact ⟨[], List.mem_of_mem_head? (takes_ahead hp)⟩

/-- Where no text of the pattern begins, it does not match. -/
theorem results_eq_nil (h : ∀ u v, r.Lang u v → t ≠ u ++ v) : r.results t = [] := by
  rw [List.eq_nil_iff_forall_not_mem]
  intro m hm
  obtain ⟨heq, hlang⟩ := sound r hm
  exact h m.text m.rest hlang heq

/-- Where a text of the pattern begins, it matches. -/
theorem first_ne_none {u v : List α} (h : r.Lang u v) : r.first (u ++ v) ≠ none := by
  obtain ⟨gs, hgs⟩ := complete r h
  exact fun hnone => List.not_mem_nil (List.head?_eq_none_iff.1 hnone ▸ hgs)

omit [DecidableEq α] in
theorem lang_plus {greedy : Bool} {cls : α → Bool} {u t : List α} :
    (plus greedy cls : Regex ν α).Lang u t ↔ u ≠ [] ∧ ∀ c ∈ u, cls c = true := by
  constructor
  · rintro ⟨v, w, rfl, ⟨c, rfl, hc⟩, hw⟩
    have hw : ∀ d ∈ w, cls d = true := hw
    exact ⟨by simp, by simpa [hc] using hw⟩
  · rintro ⟨hne, hu⟩
    cases u with
    | nil => exact absurd rfl hne
    | cons c u =>
        exact ⟨[c], u, rfl, ⟨c, rfl, hu c List.mem_cons_self⟩,
          fun d hd => hu d (List.mem_cons_of_mem c hd)⟩

omit [DecidableEq α] in
theorem lang_times {cls : α → Bool} {n : Nat} {u t : List α} :
    (times cls n : Regex ν α).Lang u t ↔ u.length = n ∧ ∀ c ∈ u, cls c = true := by
  induction n generalizing u with
  | zero =>
      constructor
      · rintro rfl
        simp
      · rintro ⟨hlen, -⟩
        exact List.length_eq_zero_iff.1 hlen
  | succ n ih =>
      constructor
      · rintro ⟨v, w, rfl, ⟨c, rfl, hc⟩, hw⟩
        obtain ⟨hlen, hall⟩ := ih.1 hw
        exact ⟨by simp [hlen], by simpa [hc] using hall⟩
      · rintro ⟨hlen, hu⟩
        cases u with
        | nil => simp at hlen
        | cons c u =>
            exact ⟨[c], u, rfl, ⟨c, rfl, hu c List.mem_cons_self⟩, ih.2
              ⟨by simpa using hlen, fun d hd => hu d (List.mem_cons_of_mem c hd)⟩⟩

/-! ## All matches -/

@[simp] theorem findAll_nil (r : Regex ν α) (fuel : Nat) : findAll r fuel [] = [] := by
  cases fuel <;> rfl

/-- A match at the front is the first one, and the others are those in the rest. -/
theorem findAll_of_takes {fuel : Nat} (h : Takes r t m) (ht : t ≠ []) :
    findAll r (fuel + 1) t = m :: findAll r fuel m.rest := by
  cases t with
  | nil => exact absurd rfl ht
  | cons c t => rw [findAll, show r.first (c :: t) = some m from h]

theorem findAll_of_none {fuel : Nat} {c : α} (h : r.results (c :: t) = []) :
    findAll r (fuel + 1) (c :: t) = findAll r fuel t := by
  rw [findAll, first, h]
  rfl

end Regex
