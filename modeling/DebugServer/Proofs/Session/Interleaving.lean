import DebugServer.Proofs.Session.Inquiry

/-!
# Requests between stops

A stop purges the table of the frames and then that of the values, at any point between the
operations of a request. What the request registers lands in the epoch of its first operation or
not at all, so nothing that it found before a stop is left in the tables after it.
-/

namespace DebugServer

namespace Scene

variable {s : Scene} {e : Epoch} {k : Nat}

/-- The request has begun in an epoch that the value table has been purged `k` times since. -/
structure Behind (s : Scene) (e : Epoch) (k : Nat) : Prop where
  within : s.inquiry.Within e
  purges : s.tables.values.epoch.purges % UInt64.size = (e.purges + k) % UInt64.size

theorem Behind.ne (h : s.Behind e k) (hpos : 0 < k) (hlt : k < UInt64.size) :
    e ≠ s.tables.values.epoch := by
  rintro rfl
  have hpurges := h.purges
  unfold UInt64.size at hpurges hlt
  omega

theorem epoch_apply (t : Tables) (c : TableChange) :
    (c.apply t).values.epoch =
      if (Action.change c).purgesValues then t.values.epoch.next else t.values.epoch := by
  cases c with
  | purgeFrames => rfl
  | purgeValues => rfl
  | registerFrame epoch frame =>
    simp only [TableChange.apply, Action.purgesValues]
    cases t.frames.addIn epoch frame with
    | none => rfl
    | some issued => rfl
  | registerScope epoch scope =>
    simp only [TableChange.apply, Action.purgesValues]
    cases h : t.values.addIn epoch scope with
    | none => rfl
    | some issued => exact (VariableTable.epoch_of_addIn h).1

theorem Behind.perform (h : s.Behind e k) (a : Action) :
    (s.perform a).Behind e (k + if a.purgesValues then 1 else 0) := by
  cases a with
  | advance m =>
    have hpurges := h.purges
    rcases h.within.advance_cases m s.tables with
      ⟨-, htables, hwithin⟩ | ⟨scope, -, ⟨-, hfailed⟩ | ⟨id, values, hadd, htables, hwithin⟩⟩
    · refine ⟨hwithin, ?_⟩
      simp only [Scene.perform, htables]
      exact hpurges
    · simp only [Scene.perform, hfailed]
      exact ⟨.failed, hpurges⟩
    · refine ⟨hwithin, ?_⟩
      simp only [Scene.perform, htables, (VariableTable.epoch_of_addIn hadd).1]
      exact hpurges
  | change c =>
    refine ⟨h.within, ?_⟩
    have hpurges := h.purges
    simp only [Scene.perform, epoch_apply]
    split
    · unfold UInt64.size at hpurges
      simp only [Epoch.next, UInt64.size]
      omega
    · exact hpurges

theorem Behind.play (h : s.Behind e k) (actions : List Action) :
    (s.play actions).Behind e (k + actions.countP Action.purgesValues) := by
  induction actions generalizing s k with
  | nil => exact h
  | cons a rest ih =>
    have hrest := ih (h.perform a)
    rw [List.countP_cons, Nat.add_comm (rest.countP _), ← Nat.add_assoc]
    exact hrest

/-- A request that has not begun yet is still so after a while, or it has begun in an epoch that
was then current. -/
theorem isNew_or_behind (h : s.inquiry.isNew = true) (actions : List Action) :
    (s.play actions).inquiry.isNew = true ∨
      ∃ e, ∃ k ≤ actions.countP Action.purgesValues, (s.play actions).Behind e k := by
  induction actions generalizing s with
  | nil => exact .inl h
  | cons a rest ih =>
    cases a with
    | advance m =>
      right
      obtain ⟨hwithin, htables⟩ := Inquiry.within_of_isNew h m s.tables
      have hstart : (s.perform (.advance m)).Behind s.tables.values.epoch 0 :=
        ⟨hwithin, by simp only [Scene.perform, htables, Nat.add_zero]⟩
      refine ⟨_, _, ?_, hstart.play rest⟩
      simp [List.countP_cons]
    | change c =>
      rcases ih (s := s.perform (.change c)) h with hnew | ⟨e, k, hk, hbehind⟩
      · exact .inl hnew
      · right
        refine ⟨e, k, ?_, hbehind⟩
        rw [List.countP_cons]
        omega

/-- A request tries to register its next scope in its own epoch. -/
theorem attempt_of_within (h : s.inquiry.Within e) {a : Attempt} (ha : s.attempt? = some a) :
    a.epoch = s.tables.values.epoch ∧
      a.reference = (s.tables.values.addIn e a.scope).map (·.1) := by
  obtain ⟨⟨e', scope⟩, hreg, rfl⟩ := Option.map_eq_some_iff.mp ha
  rcases h.advance_cases .empty s.tables with ⟨hnone, -, -⟩ | ⟨scope', hreg', -⟩
  · rw [hnone] at hreg
    cases hreg
  · rw [hreg', Option.some.injEq, Prod.mk.injEq] at hreg
    obtain ⟨rfl, rfl⟩ := hreg
    exact ⟨rfl, rfl⟩

theorem epoch_of_within (h : s.inquiry.Within e) (actions : List Action) :
    ∀ a ∈ s.attempts actions, a.reference.isSome → a.epoch = e := by
  induction actions generalizing s with
  | nil => simp [attempts]
  | cons action rest ih =>
    cases action with
    | change c => exact ih (s := s.perform (.change c)) h
    | advance m =>
      intro a ha hissued
      simp only [attempts, List.mem_append, Option.mem_toList] at ha
      rcases ha with ha | ha
      · obtain ⟨hepoch, href⟩ := attempt_of_within h ha
        rw [href, Option.isSome_map] at hissued
        obtain ⟨⟨id, values⟩, hadd⟩ := Option.isSome_iff_exists.mp hissued
        rw [hepoch, (VariableTable.epoch_of_addIn hadd).2]
      · exact ih (s := s.perform (.advance m)) (h.advance m s.tables) a ha hissued

/-- What a request registers is registered in one epoch, that of its first operation. -/
theorem exists_epoch (h : s.inquiry.isNew = true) (actions : List Action) :
    ∃ e, ∀ a ∈ s.attempts actions, a.reference.isSome → a.epoch = e := by
  induction actions generalizing s with
  | nil => exact ⟨default, by simp [attempts]⟩
  | cons action rest ih =>
    cases action with
    | change c => exact ih (s := s.perform (.change c)) h
    | advance m =>
      have hnone : s.attempt? = none := by
        unfold attempt?
        rw [Inquiry.registration?_of_isNew h]
        rfl
      refine ⟨s.tables.values.epoch, ?_⟩
      intro a ha
      rw [attempts, hnone] at ha
      exact epoch_of_within (Inquiry.within_of_isNew h m s.tables).1 rest a ha

theorem play_append (s : Scene) (before after : List Action) :
    s.play (before ++ after) = (s.play before).play after :=
  List.foldl_append

@[simp] theorem inquiry_play_failed (t : Tables) (actions : List Action) :
    (Scene.play ⟨t, .failed⟩ actions).inquiry = .failed := by
  induction actions generalizing t with
  | nil => rfl
  | cons action rest ih =>
    cases action with
    | advance m => exact ih t
    | change c => exact ih (c.apply t)

@[simp] theorem attempts_failed (t : Tables) (actions : List Action) :
    Scene.attempts ⟨t, .failed⟩ actions = [] := by
  induction actions generalizing t with
  | nil => rfl
  | cons action rest ih =>
    cases action with
    | advance m => exact ih t
    | change c => exact ih (c.apply t)

/-- A request that the value table has been purged under is refused whatever it tries to register,
which fails it, and the tables fare as they do without it. -/
theorem Behind.refused (h : s.Behind e k) (hpos : 0 < k) (actions : List Action)
    (hlt : k + actions.countP Action.purgesValues < UInt64.size) :
    (∀ a ∈ s.attempts actions, a.reference = none) ∧
      (s.attempts actions ≠ [] → (s.play actions).inquiry = .failed) ∧
      (s.play actions).tables = (Scene.play ⟨s.tables, .failed⟩ actions).tables := by
  induction actions generalizing s k with
  | nil => exact ⟨by simp [attempts], by simp [attempts], rfl⟩
  | cons action rest ih =>
    rw [List.countP_cons] at hlt
    have hrest := ih (h.perform action) (by omega) (by omega)
    cases action with
    | change c => exact hrest
    | advance m =>
      have hne := h.ne hpos (by omega)
      rcases h.within.advance_cases m s.tables with
        ⟨hnone, htables, -⟩ | ⟨scope, hreg, ⟨hadd, hfailed⟩ | ⟨id, values, hadd, -, -⟩⟩
      · -- Nothing is left to register, or a child without parts is shown.
        have hattempts : s.attempts (.advance m :: rest) =
            (s.perform (.advance m)).attempts rest := by
          simp [attempts, attempt?, hnone]
        have htables' : (s.perform (.advance m)).tables = s.tables := htables
        rw [hattempts]
        rw [htables'] at hrest
        exact hrest
      · have hperform : s.perform (.advance m) = ⟨s.tables, .failed⟩ := by
          simp [Scene.perform, hfailed]
        have hplay : s.play (.advance m :: rest) = Scene.play ⟨s.tables, .failed⟩ rest := by
          rw [play_cons, hperform]
        refine ⟨?_, ?_, ?_⟩
        · simp [attempts, attempt?, hreg, hadd, hperform]
        · intro _
          rw [hplay, inquiry_play_failed]
        · rw [hplay]
          rfl
      · rw [VariableTable.addIn_of_ne hne] at hadd
        cases hadd

theorem behind_of_purge (h : s.inquiry.isNew = true) (before : List Action)
    (hbegun : (s.play before).inquiry.isNew = false) :
    ∃ e k, 0 < k ∧ k ≤ before.countP Action.purgesValues + 1 ∧
      (s.play (before ++ [.change .purgeValues])).Behind e k := by
  rcases isNew_or_behind h before with hnew | ⟨e, k, hk, hbehind⟩
  · rw [hnew] at hbegun
    cases hbegun
  · refine ⟨e, k + 1, Nat.succ_pos k, by omega, ?_⟩
    rw [play_append]
    exact hbehind.perform (.change .purgeValues)

/-- A request that takes its course among other operations carries nothing from before a stop past
it. -/
structure Confined (s : Scene) (actions : List Action) : Prop where
  /-- All that the request registers is registered in one epoch. -/
  epoch : ∃ e, ∀ a ∈ s.attempts actions, a.reference.isSome → a.epoch = e
  /-- What it still tries to register after a purge is refused, and the request fails. -/
  refused : ∀ {before after}, actions = before ++ .change .purgeValues :: after →
    (s.play before).inquiry.isNew = false →
    (∀ a ∈ (s.play (before ++ [.change .purgeValues])).attempts after, a.reference = none) ∧
      ((s.play (before ++ [.change .purgeValues])).attempts after ≠ [] →
        (s.play actions).inquiry = .failed)
  /-- If it found its scope or frame before a stop was through with both tables, they are then as
  if the request had failed at that. -/
  forgotten : ∀ {before between after},
    actions = before ++ .change .purgeFrames :: between ++ .change .purgeValues :: after →
    (s.play (before ++ .change .purgeFrames :: between)).inquiry.hasFound = true →
    let purged := s.play (before ++ .change .purgeFrames :: between ++ [.change .purgeValues])
    (s.play actions).tables = (Scene.play ⟨purged.tables, .failed⟩ after).tables

theorem confined_of_isNew (h : s.inquiry.isNew = true) (actions : List Action)
    (hlt : actions.countP Action.purgesValues < UInt64.size) : s.Confined actions := by
  have hrefused : ∀ {before after}, actions = before ++ .change .purgeValues :: after →
      (s.play before).inquiry.isNew = false →
      let s' := s.play (before ++ [.change .purgeValues])
      (∀ a ∈ s'.attempts after, a.reference = none) ∧
        (s'.attempts after ≠ [] → (s.play actions).inquiry = .failed) ∧
        (s.play actions).tables = (Scene.play ⟨s'.tables, .failed⟩ after).tables := by
    intro before after hactions hbegun
    obtain ⟨e, k, hpos, hk, hbehind⟩ := behind_of_purge h before hbegun
    have hplay : s.play actions = (s.play (before ++ [.change .purgeValues])).play after := by
      rw [← play_append, hactions, List.append_assoc, List.singleton_append]
    rw [hplay]
    apply hbehind.refused hpos after
    rw [hactions, List.countP_append, List.countP_cons] at hlt
    simp only [Action.purgesValues, if_true] at hlt
    omega
  refine ⟨exists_epoch h actions, ?_, ?_⟩
  · intro before after hactions hbegun
    obtain ⟨hnone, hfailed, -⟩ := hrefused hactions hbegun
    exact ⟨hnone, hfailed⟩
  · intro before between after hactions hfound
    have hbegun := Inquiry.isNew_of_hasFound hfound
    exact (hrefused hactions hbegun).2.2

/-- A stop comes between the first scope of a frame and the second. -/
theorem confined_of_isNew_overtaken :
    let frame : Frame := ⟨"main", none, none, [⟨false, []⟩, ⟨true, []⟩]⟩
    let tables : Tables := { Tables.empty ⟨128, 64⟩ with frames := (HandleTable.empty.add frame).2 }
    let s : Scene := ⟨tables, .readEpoch 1⟩
    let actions : List Action := [.advance .empty, .advance .empty, .change .purgeFrames,
      .advance .empty, .change .purgeValues, .advance .empty]
    (s.inquiry.isNew = true ∧ actions.countP Action.purgesValues < UInt64.size) ∧
      s.Confined actions ∧
      (s.attempts actions).map (·.reference) = [some 1, none] ∧
      (s.play actions).inquiry = .failed := by
  intro frame tables s actions
  have hnew : s.inquiry.isNew = true := rfl
  have hlt : actions.countP Action.purgesValues < UInt64.size := by decide
  exact ⟨⟨hnew, hlt⟩, confined_of_isNew hnew actions hlt, rfl, rfl⟩

end Scene

end DebugServer
