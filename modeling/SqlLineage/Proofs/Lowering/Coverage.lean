import Mathlib.Data.List.Induction
import SqlLineage.Proofs.Lowering.Qualifiers
import SqlLineage.Proofs.Lowering.Sites

/-!
# Scopes in qualified queries

The scope of the analysis binds an offer of a factor, unless the offer is the name of a plain table
or leaves no trace in the reduced query.  What it binds offers to are plain tables or no tables.
This holds behind every factor if it holds before it, so it holds all along the way to a block, and
at every site of a qualified query for the qualifiers that are written there.
-/

namespace SqlLineage

open Sql

/-- A scope leads to plain tables only, and binds each offer that is neither the name of a plain
table nor silent. -/
structure Scope.Covers (plain silent handles : List String) (scope : Scope) : Prop where
  owners_plain : ∀ qualifier name, (qualifier, .table name) ∈ scope.bindings → name ∈ plain
  handles_bound : ∀ handle ∈ handles,
    (∃ binding, scope.bindings.lookup handle = some binding) ∨ handle ∈ plain ∨ handle ∈ silent

/-- The table that a factor names is a common table or plain, and its silent offers are known. -/
structure Sql.TableFactor.Accounted (plain silent ctes : List String) (factor : TableFactor) :
    Prop where
  table : ∀ name, factor.tableName? = some name → name ∈ ctes ∨ name ∈ plain
  silent : ∀ handle ∈ factor.silentHandles, handle ∈ silent

namespace Scope.Covers

variable {plain silent handles more : List String} {scope : Scope}

theorem empty (plain silent : List String) : Scope.Covers plain silent [] ⟨[], []⟩ where
  owners_plain := by simp
  handles_bound := by simp

theorem mono (hcovers : scope.Covers plain silent handles) (hsubset : more ⊆ handles) :
    scope.Covers plain silent more where
  owners_plain := hcovers.owners_plain
  handles_bound := fun handle hhandle => hcovers.handles_bound handle (hsubset hhandle)

theorem addCtes (hcovers : scope.Covers plain silent handles) (names : List String) :
    (scope.addCtes names).Covers plain silent handles where
  owners_plain := by
    rw [bindings_addCtes]
    exact hcovers.owners_plain
  handles_bound := by
    rw [bindings_addCtes]
    exact hcovers.handles_bound

theorem append (hcovers : scope.Covers plain silent handles)
    (hmore : ∀ handle ∈ more, handle ∈ plain ∨ handle ∈ silent) :
    scope.Covers plain silent (handles ++ more) where
  owners_plain := hcovers.owners_plain
  handles_bound := by
    intro handle hhandle
    obtain hhandle | hhandle := List.mem_append.1 hhandle
    · exact hcovers.handles_bound handle hhandle
    · exact .inr (hmore handle hhandle)

/-- What is bound before stays bound to something. -/
theorem bind (hcovers : scope.Covers plain silent handles) (qualifier : String)
    (binding : Binding) (hbinding : ∀ name, binding = .table name → name ∈ plain) :
    (scope.bind qualifier binding).Covers plain silent (handles ++ [qualifier]) where
  owners_plain := by
    intro other name hmem
    rw [Scope.bind, List.mem_cons] at hmem
    obtain heq | hmem := hmem
    · obtain ⟨-, hname⟩ := Prod.mk.inj heq
      exact hbinding name hname.symm
    · exact hcovers.owners_plain other name hmem
  handles_bound := by
    intro handle hhandle
    rw [Scope.bind, List.lookup_cons]
    by_cases hsame : handle = qualifier
    · left
      exact ⟨binding, by simp [hsame]⟩
    · have hbefore : handle ∈ handles := by simpa [hsame] using hhandle
      have hne : (handle == qualifier) = false := by simpa using hsame
      rw [hne]
      exact hcovers.handles_bound handle hbefore

end Scope.Covers

section Walk

variable {plain silent handles : List String} {scope : Scope}

/-- Behind a table, what it offers is covered. -/
theorem covers_ofNamed {name : ObjectName} {arguments : Option String}
    {aliasName : Option TableAlias} {options : String}
    (haccounted : (TableFactor.table name arguments aliasName options).Accounted plain silent
      scope.ctes)
    (hcovers : scope.Covers plain silent handles) :
    (scope.bindItem ⟨.table name.plain, aliasName.map TableAlias.plain, false, none⟩).Covers
      plain silent (handles ++ (TableFactor.table name arguments aliasName options).handles) := by
  rw [Scope.bindItem]
  by_cases hcte : scope.isCte name.plain
  · rw [if_pos hcte]
    cases aliasName with
    | some aliasName => exact hcovers.bind aliasName.plain .derived (by simp)
    | none =>
      have hname := hcovers.bind name.plain .derived (by simp)
      have hsegments := hname.append fun handle hhandle => .inr (haccounted.silent handle hhandle)
      rw [List.append_assoc] at hsegments
      exact hsegments
  · rw [if_neg hcte]
    have hplain : name.plain ∈ plain := by
      obtain hmem | hplain := haccounted.table name.plain rfl
      · exact absurd (Scope.isCte_iff.2 hmem) hcte
      · exact hplain
    have hbinding : ∀ other, Binding.table name.plain = .table other → other ∈ plain := by
      rintro other ⟨⟩
      exact hplain
    cases aliasName with
    | some aliasName => exact hcovers.bind aliasName.plain _ hbinding
    | none =>
      -- The full name needs no binding: left unbound, it stands for the table itself.
      have hoffers : ∀ handle ∈ name.plain :: name.lastSegments,
          handle ∈ plain ∨ handle ∈ silent := by
        intro handle hhandle
        obtain rfl | hhandle := List.mem_cons.1 hhandle
        · exact .inl hplain
        · exact .inr (haccounted.silent handle hhandle)
      simp only [Option.map_none, Scope.bindTable]
      cases hsegment : lastSegment? name.plain with
      | none => exact hcovers.append hoffers
      | some segment =>
        have hsegments := (hcovers.bind segment _ hbinding).append hoffers
        exact hsegments.mono (by simp [TableFactor.handles])

/-- Behind a query under an alias, the alias is covered. -/
theorem covers_ofDerived {query : Select} {lateral : Bool} {syntaxQuery : Query}
    {aliasName : Option TableAlias} (hcovers : scope.Covers plain silent handles) :
    (scope.bindItem ⟨.subquery query, aliasName.map TableAlias.plain, false, none⟩).Covers
      plain silent (handles ++ (TableFactor.derived lateral syntaxQuery aliasName).handles) := by
  cases aliasName with
  | some aliasName => exact hcovers.bind aliasName.plain .derived (by simp)
  | none => simpa [Scope.bindItem, TableFactor.handles] using hcovers

/-- Behind a factor, what it offers is covered. -/
theorem covers_ofFactor {factor : TableFactor}
    (haccounted : factor.Accounted plain silent scope.ctes)
    (hcovers : scope.Covers plain silent handles) :
    (scope.bindFactors [factor]).Covers plain silent (handles ++ factor.handles) := by
  cases factor with
  | table name arguments aliasName options => exact covers_ofNamed haccounted hcovers
  | derived lateral query aliasName => exact covers_ofDerived hcovers
  | nested _ _ | rows _ _ | reshaped _ _ _ =>
    exact hcovers.append fun handle hhandle => .inr (haccounted.silent handle hhandle)

theorem covers_ofFactors {factors : List TableFactor}
    (haccounted : ∀ factor ∈ factors, factor.Accounted plain silent scope.ctes)
    (hcovers : scope.Covers plain silent handles) :
    (scope.bindFactors factors).Covers plain silent
      (handles ++ factors.flatMap TableFactor.handles) := by
  induction factors generalizing handles scope with
  | nil => simpa [Scope.bindFactors] using hcovers
  | cons factor rest ih =>
    rw [List.forall_mem_cons] at haccounted
    rw [← List.singleton_append, Scope.bindFactors_append, List.flatMap_append,
      List.flatMap_singleton, ← List.append_assoc]
    exact ih (by simpa using haccounted.2) (covers_ofFactor haccounted.1 hcovers)

end Walk

/-! ## The sites of a qualified query -/

/-- The factors at a site are accounted for under the scope of the analysis. -/
def Sql.Site.Accounted (plain silent : List String) (site : Site) : Prop :=
  ∀ factor ∈ site.block.factors, factor.Accounted plain silent site.scope.ctes

/-- The scope of the analysis at a site covers the qualifiers that are written there. -/
def Sql.Site.Covered (plain silent : List String) (site : Site) : Prop :=
  site.scope.Covers plain silent site.block.qualifiers

/-- Both scopes on the way to a block cover the offers around it. -/
structure Sql.Scopes.Cover (plain silent offers : List String) (scopes : Scopes) : Prop where
  current : scopes.current.Covers plain silent offers
  row : ∀ scope, scopes.row = some scope → scope.Covers plain silent offers

section Sites

variable {plain silent : List String}

theorem Sql.Scopes.Cover.branches {offers : List String} {scopes : Scopes}
    (hcover : scopes.Cover plain silent offers) (opening : List String) :
    (scopes.branches opening).Covers plain silent offers := by
  rw [Scopes.branches]
  cases hrow : scopes.row with
  | none => exact hcover.current.addCtes opening
  | some scope => exact hcover.row scope hrow

/-- A step keeps the offers covered, if the factors that it passes are accounted for. -/
theorem Sql.Scopes.Cover.step {offers : List String} {scopes : Scopes} {step : Step}
    (hcover : scopes.Cover plain silent offers)
    (hpassed : ∀ factors, step = .behind factors →
      ∀ factor ∈ factors, factor.Accounted plain silent scopes.current.ctes) :
    (Step.scopes scopes step).Cover plain silent (Step.offers offers step) := by
  have hbranches := hcover.branches
  cases step with
  | clause recursive names => exact ⟨hcover.current, nofun⟩
  | pastCte name => exact ⟨hcover.current.addCtes [name], nofun⟩
  | body names => exact ⟨hcover.current.addCtes names, hcover.row⟩
  | left opening =>
    exact ⟨hcover.current, fun scope hscope => Option.some.inj hscope ▸ hbranches opening⟩
  | right opening =>
    exact ⟨hbranches opening, fun scope hscope => Option.some.inj hscope ▸ hbranches opening⟩
  | behind factors => exact ⟨covers_ofFactors (hpassed factors rfl) hcover.current, nofun⟩
  | dropped => exact hcover

variable {query : Query}

/-- All along the way to a place that is kept, the offers are covered if the factors at all sites are
accounted for. -/
theorem cover_foldl (haccounted : ∀ site ∈ query.rootSites, site.Accounted plain silent)
    {place : Place} (hplace : place ∈ query.places) (hkept : place.kept) {front back : List Step}
    (hpath : place.path = front ++ back) :
    (front.foldl Step.scopes {}).Cover plain silent (front.foldl Step.offers []) := by
  induction front using List.reverseRecOn generalizing back with
  | nil => exact ⟨.empty plain silent, nofun⟩
  | append_singleton front step ih =>
    rw [List.append_assoc, List.singleton_append] at hpath
    rw [List.foldl_append, List.foldl_append]
    refine (ih hpath).step ?_
    -- The factors that are passed stand in a block that has the way up to there.
    rintro factors rfl factor hfactor
    obtain ⟨owner, howner, hfront, hsubset⟩ :=
      owned_query query place hplace hkept front factors back hpath
    have hearlier : owner.path <+: place.path := ⟨.behind factors :: back, by rw [hfront, hpath]⟩
    have hsite := haccounted owner.site
      (mem_rootSites.2 ⟨owner, howner, Place.kept_of_earlier hearlier hkept, rfl⟩)
    have hfactors := hsite factor (hsubset hfactor)
    rwa [Place.site, Scope.ctes_bindItems, Place.scopeUnder, hfront] at hfactors

theorem covered_of_mem_rootSites (hqualified : query.Qualified)
    (haccounted : ∀ site ∈ query.rootSites, site.Accounted plain silent) :
    ∀ site ∈ query.rootSites, site.Covered plain silent := by
  intro site hsite
  have hfactors := haccounted site hsite
  obtain ⟨place, hplace, hkept, rfl⟩ := mem_rootSites.1 hsite
  have hbefore : (place.scopeUnder {}).Covers plain silent place.offers :=
    (cover_foldl haccounted hplace hkept (List.append_nil _).symm).current
  have hown : ∀ factor ∈ place.block.factors,
      factor.Accounted plain silent (place.scopeUnder {}).ctes := by
    intro factor hfactor
    have haccount := hfactors factor hfactor
    rwa [Place.site, Scope.ctes_bindItems] at haccount
  have hbehind := covers_ofFactors hown hbefore
  rw [Site.Covered, Place.site, Scope.bindItems_ofList]
  exact hbehind.mono (hqualified place hplace hkept)

end Sites

end SqlLineage
