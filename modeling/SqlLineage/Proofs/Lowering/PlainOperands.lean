import SqlLineage.Proofs.Lowering.CommonTables

/-!
# Operands without common tables

As long as no WITH clause is recursive and no operand of a set operation brings common tables of its
own, the scope of the analysis has at each block exactly the common tables in view there.  If nothing
is dropped besides, the analysis answers the free tables of the query.
-/

namespace SqlLineage

open Sql

/-- No WITH clause on the way is recursive or stands over an operand of a set operation.  The flag
tells whether the way starts at an operand. -/
def Sql.Step.plain (operand : Bool) : List Step → Bool
  | [] => true
  | .clause recursive _ :: rest => !recursive && Step.plain false rest
  | .pastCte _ :: rest => Step.plain false rest
  | .body names :: rest => (!operand || names.isEmpty) && Step.plain operand rest
  | .left opening :: rest => opening.isEmpty && Step.plain true rest
  | .right opening :: rest => opening.isEmpty && Step.plain true rest
  | .behind _ :: rest => Step.plain false rest
  | .dropped :: rest => Step.plain operand rest

/-- No WITH clause of a query is recursive, and no operand of a set operation brings common tables
along. -/
def Sql.Query.PlainOperands (query : Query) : Prop :=
  ∀ place ∈ query.places, Step.plain false place.path

/-- The scope of the analysis has the common tables in view and no other. -/
def Scope.Shows (scope : Scope) (visible : List String) : Prop :=
  ∀ name, name ∈ scope.ctes ↔ name ∈ visible

theorem Scope.Shows.addCtes {scope : Scope} {visible : List String}
    (hshows : scope.Shows visible) (names : List String) :
    (scope.addCtes names).Shows (names ++ visible) := by
  intro name
  rw [mem_ctes_addCtes, List.mem_append, hshows name]

theorem Scope.Shows.bindItems {scope : Scope} {visible : List String}
    (hshows : scope.Shows visible) (items : List FromItem) :
    (scope.bindItems items).Shows visible := by
  intro name
  rw [ctes_bindItems, hshows name]

/-- Both scopes on the way have the common tables in view and no other. -/
structure Sql.Scopes.Show (scopes : Scopes) (visible : List String) : Prop where
  current : scopes.current.Shows visible
  row : ∀ scope, scopes.row = some scope → scope.Shows visible

theorem Sql.Scopes.Show.branches {scopes : Scopes} {visible : List String}
    (hshow : scopes.Show visible) : (scopes.branches []).Shows visible := by
  cases hrow : scopes.row with
  | none => simpa [Scopes.branches, hrow] using hshow.current
  | some scope => simpa [Scopes.branches, hrow] using hshow.row scope hrow

/-- On a plain way the scopes show what is in view.  An operand is where there is a row. -/
theorem shows_foldl {path : List Step} {scopes : Scopes} {visible : List String}
    (hplain : Step.plain scopes.row.isSome path) (hshow : scopes.Show visible) :
    (path.foldl Step.scopes scopes).current.Shows (path.foldl Step.view visible) := by
  induction path generalizing scopes visible with
  | nil => exact hshow.current
  | cons step rest ih =>
    rw [List.foldl_cons, List.foldl_cons]
    cases step with
    | clause recursive names =>
      rw [Step.plain, Bool.and_eq_true, Bool.not_eq_true'] at hplain
      obtain ⟨rfl, hrest⟩ := hplain
      exact ih hrest ⟨hshow.current, nofun⟩
    | pastCte name => exact ih hplain ⟨hshow.current.addCtes [name], nofun⟩
    | body names =>
      rw [Step.plain, Bool.and_eq_true] at hplain
      refine ih hplain.2 ⟨hshow.current.addCtes names, fun scope hscope => ?_⟩
      have hrow : scopes.row = some scope := hscope
      have hnames : names = [] := by simpa [hrow] using hplain.1
      subst hnames
      exact hshow.row scope hrow
    | left opening =>
      rw [Step.plain, Bool.and_eq_true, List.isEmpty_iff] at hplain
      obtain ⟨rfl, hrest⟩ := hplain
      exact ih hrest ⟨hshow.current, fun scope hscope => Option.some.inj hscope ▸ hshow.branches⟩
    | right opening =>
      rw [Step.plain, Bool.and_eq_true, List.isEmpty_iff] at hplain
      obtain ⟨rfl, hrest⟩ := hplain
      exact ih hrest ⟨hshow.branches, fun scope hscope => Option.some.inj hscope ▸ hshow.branches⟩
    | behind factors => exact ih hplain ⟨hshow.current.bindItems _, nofun⟩
    | dropped => exact ih hplain hshow

theorem shows_of_mem_rootSites {query : Query} (hplain : query.PlainOperands) {site : Site}
    (hsite : site ∈ query.rootSites) : site.scope.Shows site.visible := by
  obtain ⟨place, hplace, -, rfl⟩ := mem_rootSites.1 hsite
  have hempty : Scopes.Show {} [] := ⟨fun _ => Iff.rfl, nofun⟩
  have hshows : (place.scopeUnder {}).Shows place.visible :=
    shows_foldl (hplain place hplace) hempty
  exact hshows.bindItems _

/-- If no operand of a set operation brings common tables along, and nothing is dropped, then the
analysis answers the free tables. -/
theorem mem_reads_iff_of_plainOperands {recurse : Bool} {query : Query} {registry : Registry}
    {name : String} (hplain : query.PlainOperands) (hkept : ∀ place ∈ query.places, place.kept) :
    name ∈ (analyzeSelect recurse (Select.ofQuery query) ⟨[], []⟩ registry).2 ↔
      name ∈ query.freeTables := by
  have hdropped : query.droppedTables = [] := by
    have hnone : query.places.filter (fun place => !place.kept) = [] := by simpa using hkept
    rw [Query.droppedTables, hnone, List.flatMap_nil]
  rw [mem_reads_ofQuery query, mem_freeTables, hdropped, List.mem_flatMap, List.mem_flatMap,
    or_iff_left List.not_mem_nil]
  refine exists_congr fun site => and_congr_right fun hsite => ?_
  rw [mem_read, mem_free, shows_of_mem_rootSites hplain hsite name]

end SqlLineage
