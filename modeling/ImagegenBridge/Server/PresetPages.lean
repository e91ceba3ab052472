import ImagegenBridge.Runtime.Presets
import ImagegenBridge.Server.JobHistory

/-!
# Pages of the presets, `list_presets` of `crates/server/src/routes.rs`

A page asks the store for one preset more than it shows. The cursor of the next page is the name of
the last preset shown, as base64. `presets_toured` follows the cursors while other calls change the
presets.
-/

namespace ImagegenBridge.PresetStore

open Text
open Records (bind_ok)
open Server (ApiError CursorText decodeCursor decodeCursor_encode encodeCursor maxPageSize okOr okOr_ok
  refuseIf refuseIf_ok standardCursors)
open Transition (Run Unrestricted)

structure ProviderQuery where
  limit : Nat := 20
  cursor : Option String := none

structure ImagePresetPage where
  items : List ImagePreset
  nextCursor : Option String

variable (cursors : CursorText) (text : JsonText)

def decodeAfter (cursor : Option String) : Except ApiError (Option String) :=
  match cursor with
  | none => .ok none
  | some cursor =>
    ((decodeCursor cursors cursor).map some).mapError fun _ => .badRequest "preset cursor is malformed"

def presetsDisabled : BridgeError := .new .configuration "preset storage is disabled"

/-- The page of the presets that the store has listed. -/
def presetPage (limit : Nat) (items : List ImagePreset) : ImagePresetPage where
  items := items.take limit
  nextCursor := if items.length > limit then
    (items.take limit).getLast?.map fun preset => encodeCursor cursors preset.name
    else none

/-- A page of the presets; without a store they are disabled. -/
def listPresets (up : Bool) (query : ProviderQuery) (store : Option Rows) :
    Except ApiError ImagePresetPage := do
  refuseIf (query.limit == 0 || decide (query.limit > maxPageSize))
    (ApiError.badRequest "preset page limit must be between 1 and 100")
  let after ← decodeAfter cursors query.cursor
  let rows ← okOr (.bridge presetsDisabled) store
  let items ← (list text up after (query.limit + 1) rows).mapError .bridge
  .ok (presetPage cursors query.limit items)

/-! ## One page -/

/-- What a page shows of a map: the presets after one name, and up to another if there is one. -/
structure Shows (presets : Presets) (after next : Option String) (items : List ImagePreset) :
    Prop where
  sorted : items.Pairwise (·.name < ·.name)
  found : ∀ preset ∈ items, presets preset.name = some preset ∧ after.all (· < preset.name) = true
  bounded : ∀ last, next = some last →
    after.all (· < last) = true ∧ ∀ preset ∈ items, preset.name ≤ last
  full : ∀ name preset, presets name = some preset → after.all (· < name) = true →
    preset ∈ items ∨ ∃ last, next = some last ∧ last < name

variable {cursors text} {rows : Rows} {after : Option String} {limit : Nat}

theorem decodeAfter_encode {name : String} (valid : validatePresetName name = .ok ()) :
    decodeAfter cursors (some (encodeCursor cursors name)) = .ok (some name) := by
  obtain ⟨⟨filled, short⟩, _⟩ := of_not_not ((Outcome.failIf_ok ..).mp valid)
  unfold decodeAfter
  dsimp only
  rw [decodeCursor_encode filled short]
  rfl

theorem decodeAfter_some (token : String) : decodeAfter cursors (some token) ≠ .ok none := by
  unfold decodeAfter
  dsimp only
  cases decodeCursor cursors token with
  | error e => exact fun impossible => nomatch impossible
  | ok name => exact fun impossible => nomatch impossible

theorem presetPage_shows (sound : Sound text rows) {items : List ImagePreset} (positive : 0 < limit)
    (page : PageOf (presetsOf text rows) after (limit + 1) items) :
    ∃ next, decodeAfter cursors (presetPage cursors limit items).nextCursor = .ok next ∧
      Shows (presetsOf text rows) after next (presetPage cursors limit items).items := by
  unfold presetPage
  dsimp only
  by_cases more : items.length > limit
  · rw [if_pos more]
    obtain ⟨last, ends⟩ : ∃ last, (items.take limit).getLast? = some last := by
      refine Option.ne_none_iff_exists'.mp fun none => ?_
      have short := congrArg List.length (List.getLast?_eq_none_iff.mp none)
      rw [List.length_take, List.length_nil] at short
      omega
    obtain ⟨front, shape⟩ := List.getLast?_eq_some_iff.mp ends
    have shown : last ∈ items.take limit := by
      rw [shape]
      exact List.mem_append_right _ (List.mem_singleton_self _)
    have found := page.found last (List.mem_of_mem_take shown)
    obtain ⟨row, present, named, _⟩ := (presetsOf_some sound).mp found.1
    have valid : validatePresetName last.name = .ok () := named ▸ (sound.rows row present).name
    rw [ends, Option.map_some, decodeAfter_encode valid]
    have sorted := page.sorted
    rw [← List.take_append_drop limit items] at sorted
    obtain ⟨first, _, across⟩ := List.pairwise_append.mp sorted
    refine ⟨some last.name, rfl, first, ?_, ?_, ?_⟩
    · exact fun preset member => page.found preset (List.mem_of_mem_take member)
    · rintro _ ⟨⟩
      refine ⟨found.2, fun preset member => ?_⟩
      rw [shape] at member first
      obtain before | own := List.mem_append.mp member
      · have below := (List.pairwise_append.mp first).2.2 preset before last
          (List.mem_singleton_self _)
        exact String.not_lt.mp (String.lt_asymm below)
      · cases List.mem_singleton.mp own
        exact String.le_refl _
    · intro name preset here later
      obtain member | ⟨_, beyond⟩ := page.full name preset here later
      · rw [← List.take_append_drop limit items] at member
        obtain member | beyond := List.mem_append.mp member
        · exact Or.inl member
        · have below := across last shown preset beyond
          rw [presetsOf_name sound here] at below
          exact Or.inr ⟨_, rfl, below⟩
      · exact Or.inr ⟨_, rfl, beyond last (List.mem_of_mem_take shown)⟩
  · rw [if_neg more, List.take_of_length_le (Nat.le_of_not_lt more)]
    refine ⟨none, rfl, page.sorted, page.found,
      (fun _ impossible => nomatch impossible), ?_⟩
    intro name preset here later
    obtain member | ⟨filled, _⟩ := page.full name preset here later
    · exact Or.inl member
    · omega

/-- An answered page, and what its cursor is read as. -/
theorem listPresets_shows (sound : Sound text rows) {up : Bool} {query : ProviderQuery}
    {page : ImagePresetPage} (answered : listPresets cursors text up query (some rows) = .ok page)
    (read : decodeAfter cursors query.cursor = .ok after) :
    ∃ next, decodeAfter cursors page.nextCursor = .ok next ∧
      Shows (presetsOf text rows) after next page.items := by
  obtain ⟨_, checked, answered⟩ := bind_ok.mp answered
  obtain ⟨after', read', answered⟩ := bind_ok.mp answered
  cases read.symm.trans read'
  obtain ⟨_, ⟨⟩, answered⟩ := bind_ok.mp answered
  obtain ⟨items, listed, ⟨⟩⟩ := bind_ok.mp answered
  have positive : 0 < query.limit := by
    have range := refuseIf_ok.mp checked
    rw [Bool.or_eq_false_iff, beq_eq_false_iff_ne] at range
    exact Nat.pos_of_ne_zero range.1
  have step := (list_refines sound up after (query.limit + 1)).step
  cases result : list text up after (query.limit + 1) rows with
  | error e =>
    rw [result] at listed
    cases listed
  | ok found =>
    rw [result] at listed step
    cases listed
    exact presetPage_shows sound positive step.listed_ok

/-- A query that is served is answered. -/
theorem listPresets_answers (sound : Sound text rows) {query : ProviderQuery}
    (range : (query.limit == 0 || decide (query.limit > maxPageSize)) = false)
    (read : decodeAfter cursors query.cursor = .ok after) :
    ∃ page, listPresets cursors text true query (some rows) = .ok page := by
  obtain ⟨_, small⟩ := Bool.or_eq_false_iff.mp range
  have few : query.limit + 1 ≤ i64Max := by
    have most : maxPageSize + 1 ≤ i64Max := by decide
    have within := Nat.le_of_not_lt (of_decide_eq_false small)
    omega
  have step := (list_refines sound true after (query.limit + 1)).step
  cases result : list text true after (query.limit + 1) rows with
  | error e =>
    rw [result] at step
    exact absurd ⟨rfl, few⟩ step.list_unserved
  | ok items =>
    refine ⟨presetPage cursors query.limit items, bind_ok.mpr ⟨(), refuseIf_ok.mpr range, ?_⟩⟩
    refine bind_ok.mpr ⟨after, read, bind_ok.mpr ⟨rows, rfl, bind_ok.mpr ⟨items, ?_, rfl⟩⟩⟩
    rw [result]
    rfl

/-! ## Following cursors -/

/-- The pages from a cursor to the one without a next cursor, each with the table it was read from.
Before each page other calls run. -/
inductive Tour (cursors : CursorText) (text : JsonText) (limit : Nat) :
    Rows → Option String → List (Rows × List ImagePreset) → Prop
  | last {rows rows' : Rows} {cursor : Option String} {up : Bool} {items : List ImagePreset}
      (others : Run (Step text) Unrestricted rows rows')
      (answered : listPresets cursors text up ⟨limit, cursor⟩ (some rows') = .ok ⟨items, none⟩) :
      Tour cursors text limit rows cursor [(rows', items)]
  | next {rows rows' : Rows} {cursor : Option String} {up : Bool} {items : List ImagePreset}
      {token : String} {later : List (Rows × List ImagePreset)}
      (others : Run (Step text) Unrestricted rows rows')
      (answered : listPresets cursors text up ⟨limit, cursor⟩ (some rows') = .ok ⟨items, some token⟩)
      (rest : Tour cursors text limit rows' (some token) later) :
      Tour cursors text limit rows cursor ((rows', items) :: later)

def shown (pages : List (Rows × List ImagePreset)) : List ImagePreset := pages.flatMap Prod.snd

/-- What pages from a name on show. -/
structure Toured (text : JsonText) (after : Option String) (pages : List (Rows × List ImagePreset)) :
    Prop where
  sorted : (shown pages).Pairwise (·.name < ·.name)
  later : ∀ preset ∈ shown pages, after.all (· < preset.name) = true
  found : ∀ page ∈ pages, ∀ preset ∈ page.2, presetsOf text page.1 preset.name = some preset
  complete : ∀ name, after.all (· < name) = true →
    (∀ page ∈ pages, presetsOf text page.1 name ≠ none) → ∃ preset ∈ shown pages, preset.name = name

theorem Toured.last {items : List ImagePreset} (shows : Shows (presetsOf text rows) after none items)
    (sound : Sound text rows) : Toured text after [(rows, items)] := by
  have all : shown [(rows, items)] = items := List.append_nil items
  refine ⟨?_, ?_, ?_, ?_⟩
  · rw [all]
    exact shows.sorted
  · rw [all]
    exact fun preset member => (shows.found preset member).2
  · intro page among preset member
    cases List.mem_singleton.mp among
    exact (shows.found preset member).1
  · intro name later present
    rw [all]
    obtain ⟨preset, here⟩ := Option.ne_none_iff_exists'.mp
      (present _ (List.mem_singleton_self _))
    obtain member | ⟨_, impossible, _⟩ := shows.full name preset here later
    · exact ⟨preset, member, presetsOf_name sound here⟩
    · cases impossible

theorem Toured.next {items : List ImagePreset} {last : String}
    {pages : List (Rows × List ImagePreset)}
    (shows : Shows (presetsOf text rows) after (some last) items) (sound : Sound text rows)
    (rest : Toured text (some last) pages) : Toured text after ((rows, items) :: pages) := by
  have all : shown ((rows, items) :: pages) = items ++ shown pages := rfl
  obtain ⟨beyond, upTo⟩ := shows.bounded last rfl
  have below : ∀ preset ∈ shown pages, last < preset.name := fun preset member =>
    of_decide_eq_true (rest.later preset member)
  refine ⟨?_, ?_, ?_, ?_⟩
  · rw [all]
    refine List.pairwise_append.mpr ⟨shows.sorted, rest.sorted, fun preset first other second => ?_⟩
    refine String.not_le.mp fun above => ?_
    exact String.not_lt.mpr (String.le_trans above (upTo preset first)) (below other second)
  · rw [all]
    intro preset member
    obtain first | second := List.mem_append.mp member
    · exact (shows.found preset first).2
    · cases after with
      | none => rfl
      | some start =>
        exact decide_eq_true (String.lt_trans (of_decide_eq_true beyond) (below preset second))
  · intro page among preset member
    obtain rfl | among := List.mem_cons.mp among
    · exact (shows.found preset member).1
    · exact rest.found page among preset member
  · intro name later present
    rw [all]
    obtain ⟨preset, here⟩ := Option.ne_none_iff_exists'.mp (present _ (List.mem_cons_self ..))
    obtain member | ⟨_, ⟨⟩, farther⟩ := shows.full name preset here later
    · exact ⟨preset, List.mem_append_left _ member, presetsOf_name sound here⟩
    · obtain ⟨preset, member, named⟩ := rest.complete name (decide_eq_true farther)
        fun page among => present page (List.mem_cons_of_mem _ among)
      exact ⟨preset, List.mem_append_right _ member, named⟩

theorem tour_toured {cursor : Option String} {pages : List (Rows × List ImagePreset)}
    (tour : Tour cursors text limit rows cursor pages) (sound : Sound text rows)
    (read : decodeAfter cursors cursor = .ok after) : Toured text after pages := by
  induction tour generalizing after with
  | last others answered =>
    have sound' := sound_along sound others
    obtain ⟨next, ended, shows⟩ := listPresets_shows sound' answered read
    cases ended
    exact .last shows sound'
  | @next _ _ _ _ items token _ others answered _ ih =>
    have sound' := sound_along sound others
    obtain ⟨next, follows, shows⟩ := listPresets_shows sound' answered read
    cases next with
    | none => exact absurd follows (decodeAfter_some token)
    | some last => exact .next shows sound' (ih sound' follows)

/-! ## A tour of two pages -/

def landscapePreset : ImagePreset := ⟨"landscape", none, {}, 12, 12⟩

def updatedPreset : ImagePreset := ⟨"portrait", some "Updated", {}, 10, 12⟩

theorem landscape_read : decodeRow portraitJson landscapeRow = .ok landscapePreset :=
  decodeRow_encoded portrait_fits portrait_encoded ..

theorem updated_read : decodeRow portraitJson updatedRow = .ok updatedPreset :=
  decodeRow_encoded portrait_fits portrait_encoded ..

theorem both_run : Run (Step portraitJson) Unrestricted [] [updatedRow, landscapeRow] := by
  have step := @Step.update portraitJson [portraitRow] true "portrait" ⟨some "Updated", {}⟩ 12
    portrait_fits
  rw [portrait_updated] at step
  have later := (landscape_apart [updatedRow]).unrestricted
  rw [landscape_created] at later
  exact (portrait_run.then step).trans later

theorem landscape_deleted :
    Run (Step portraitJson) Unrestricted [updatedRow, landscapeRow] [updatedRow] :=
  Run.start.then (@Step.delete portraitJson [updatedRow, landscapeRow] true "landscape")

theorem list_served {rows found : Rows} {after : Option String} {items : List ImagePreset}
    (sorted : listed after 2 rows = found)
    (read : found.mapM (decodeRow portraitJson) = .ok items) :
    list portraitJson true after 2 rows = .ok items := by
  have served : (true && decide (2 ≤ i64Max)) = true := by decide
  unfold list statement
  rw [if_pos served, sorted]
  exact read

theorem first_page :
    listPresets standardCursors portraitJson true ⟨1, none⟩ (some [updatedRow, landscapeRow]) =
      .ok ⟨[landscapePreset], some (encodeCursor standardCursors "landscape")⟩ := by
  have sorted : listed none 2 [updatedRow, landscapeRow] = [landscapeRow, updatedRow] := rfl
  have read : [landscapeRow, updatedRow].mapM (decodeRow portraitJson) =
      .ok [landscapePreset, updatedPreset] := by
    rw [List.mapM_cons, List.mapM_cons, landscape_read, updated_read]
    rfl
  refine bind_ok.mpr ⟨(), rfl, bind_ok.mpr ⟨none, rfl, bind_ok.mpr ⟨_, rfl, bind_ok.mpr ?_⟩⟩⟩
  refine ⟨[landscapePreset, updatedPreset], ?_, rfl⟩
  rw [list_served sorted read]
  rfl

theorem second_page :
    listPresets standardCursors portraitJson true
        ⟨1, some (encodeCursor standardCursors "landscape")⟩ (some [updatedRow]) =
      .ok ⟨[updatedPreset], none⟩ := by
  have sorted : listed (some "landscape") 2 [updatedRow] = [updatedRow] := rfl
  have read : [updatedRow].mapM (decodeRow portraitJson) = .ok [updatedPreset] := by
    rw [List.mapM_cons, updated_read]
    rfl
  refine bind_ok.mpr ⟨(), rfl, bind_ok.mpr ⟨_, decodeAfter_encode rfl, ?_⟩⟩
  refine bind_ok.mpr ⟨_, rfl, bind_ok.mpr ⟨[updatedPreset], ?_, rfl⟩⟩
  rw [list_served sorted read]
  rfl

/-- A preset is deleted after it was shown. -/
theorem both_tour : Tour standardCursors portraitJson 1 [] none
    [([updatedRow, landscapeRow], [landscapePreset]), ([updatedRow], [updatedPreset])] :=
  .next both_run first_page (.last landscape_deleted second_page)

/-! ## Whole tours -/

/-- Whatever other calls do meanwhile, the cursor that a page hands out is good for a next page. -/
theorem cursor_followed {rows' : Rows} {up : Bool} {cursor : Option String}
    {items : List ImagePreset} {token : String} (run : Run (Step text) Unrestricted [] rows)
    (answered : listPresets cursors text up ⟨limit, cursor⟩ (some rows) = .ok ⟨items, some token⟩)
    (others : Run (Step text) Unrestricted rows rows') :
    ∃ page, listPresets cursors text true ⟨limit, some token⟩ (some rows') = .ok page := by
  obtain ⟨_, checked, rest⟩ := bind_ok.mp answered
  obtain ⟨after, read, _⟩ := bind_ok.mp rest
  have sound := reached_sound run
  obtain ⟨next, follows, _⟩ := listPresets_shows sound answered read
  exact listPresets_answers (sound_along sound others) (refuseIf_ok.mp checked) follows

theorem landscape_followed :
    ∃ page, listPresets standardCursors portraitJson true
      ⟨1, some (encodeCursor standardCursors "landscape")⟩ (some [updatedRow]) = .ok page :=
  cursor_followed both_run first_page landscape_deleted

/-- Whatever other calls do between two pages: the pages from the first to the last show no preset
twice, in the order of the names, each as the store had it when its page was read, and none that
was there for every page is left out. -/
theorem presets_toured {pages : List (Rows × List ImagePreset)}
    (tour : Tour cursors text limit [] none pages) :
    (shown pages).Pairwise (·.name < ·.name) ∧
      (∀ page ∈ pages, ∀ preset ∈ page.2, presetsOf text page.1 preset.name = some preset) ∧
      ∀ name, (∀ page ∈ pages, presetsOf text page.1 name ≠ none) →
        ∃ preset ∈ shown pages, preset.name = name := by
  have toured := tour_toured tour empty_sound rfl
  exact ⟨toured.sorted, toured.found, fun name => toured.complete name rfl⟩

theorem both_toured :
    (shown [([updatedRow, landscapeRow], [landscapePreset]),
        ([updatedRow], [updatedPreset])]).Pairwise (·.name < ·.name) ∧
      (∀ page ∈ [([updatedRow, landscapeRow], [landscapePreset]), ([updatedRow], [updatedPreset])],
        ∀ preset ∈ page.2, presetsOf portraitJson page.1 preset.name = some preset) ∧
      ∀ name, (∀ page ∈ [([updatedRow, landscapeRow], [landscapePreset]),
          ([updatedRow], [updatedPreset])], presetsOf portraitJson page.1 name ≠ none) →
        ∃ preset ∈ shown [([updatedRow, landscapeRow], [landscapePreset]),
          ([updatedRow], [updatedPreset])], preset.name = name :=
  presets_toured both_tour

end ImagegenBridge.PresetStore
