import OzoPg.QueryConf.Description
import Mathlib.Data.List.Nodup

/-!
# Repositories

`make_query_repository` checks the declarations, the definitions and then one against the other.
Each pass is characterised on its own; together they say when there is a repository.

The names are compared in two ways. Duplicate declarations are found by the `hana::string` itself,
while `get_query_name` cuts it at a null character. For names without one there is no difference.

* `Accepted` — the conditions, for either way to read a declared name.
* `makeQueryRepository_eq_ok_iff` — when there is a repository.
* `repositoryExact_iff` — when that is what the names say.
-/

namespace OzoPg.QueryConf

/-! ## The passes

Each of the loops of the header is described by when it succeeds and what it returns then. The
repository is the conjunction of these conditions. -/

/-- The set grows by one name a round. -/
theorem foldlM_insertName_eq_ok_iff {error : Text → ConfError} {names set result : List Text} :
    names.foldlM (insertName error) set = .ok result ↔
      names.Nodup ∧ (∀ name ∈ names, name ∉ set) ∧ result = names.reverse ++ set := by
  -- over the set, which holds the names so far
  induction names generalizing set with
  | nil =>
      refine ⟨?_, ?_⟩
      · rintro ⟨⟩
        exact ⟨.nil, nofun, rfl⟩
      · rintro ⟨-, -, rfl⟩
        rfl
  | cons name names ih =>
      rw [List.foldlM_cons, List.nodup_cons, List.forall_mem_cons]
      by_cases hname : name ∈ set
      · rw [insertName, if_pos hname]
        exact iff_of_false nofun fun h => h.2.1.1 hname
      · rw [insertName, if_neg hname]
        refine Iff.trans ih ?_
        simp only [List.mem_cons, not_or, List.reverse_cons, List.append_assoc,
          List.singleton_append]
        constructor
        · rintro ⟨hnodup, hset, hresult⟩
          exact ⟨⟨fun hmem => (hset name hmem).1 rfl, hnodup⟩,
            ⟨hname, fun n hn => (hset n hn).2⟩, hresult⟩
        · rintro ⟨⟨hnotin, hnodup⟩, ⟨-, hset⟩, hresult⟩
          refine ⟨hnodup, fun n hn => ⟨?_, hset n hn⟩, hresult⟩
          rintro rfl
          exact hnotin hn

theorem insertAll_eq_ok_iff {error : Text → ConfError} {names result : List Text} :
    insertAll error names = .ok result ↔ names.Nodup ∧ result = names.reverse := by
  refine foldlM_insertName_eq_ok_iff.trans ?_
  simp

/-- Declarations are compared by their whole names. -/
theorem checkForDuplicateDeclarations_eq_ok_iff {queries : List Query} :
    checkForDuplicateDeclarations queries = .ok () ↔ (queries.map Query.name).Nodup := by
  unfold checkForDuplicateDeclarations
  rw [Except.map_eq_ok_iff]
  simp [insertAll_eq_ok_iff]

/-- Definitions are looked up by the name up to a null character. -/
theorem checkForUndefined_eq_ok_iff {declarations : List Query} {definitions : List Text} :
    checkForUndefined declarations definitions = .ok () ↔
      ∀ query ∈ declarations, getQueryName query ∈ definitions := by
  unfold checkForUndefined
  induction declarations with
  | nil => exact iff_of_true rfl nofun
  | cons query declarations ih =>
      rw [List.forM_eq_forM, List.forM_cons, List.forall_mem_cons]
      by_cases hquery : getQueryName query ∈ definitions
      · rw [if_pos hquery]
        refine Iff.trans ih ?_
        simp [hquery]
      · rw [if_neg hquery]
        exact iff_of_false nofun fun h => hquery h.1

/-- The declaration of a definition: the last one of its name. -/
def declaration (queries : List Query) (name : Text) : Option Query :=
  (queries.filter (getQueryName · = name)).getLast?

theorem declaration_cons_of_ne {queries : List Query} {query : Query} {name : Text}
    (h : getQueryName query ≠ name) :
    declaration (query :: queries) name = declaration queries name := by
  simp [declaration, h]

/-- A later declaration of the name goes before an earlier one. -/
theorem declaration_cons_of_eq {queries : List Query} {query : Query} {name : Text}
    (h : getQueryName query = name) :
    declaration (query :: queries) name = some ((declaration queries name).getD query) := by
  simp [declaration, h, List.getLast?_cons]

theorem mem_of_declaration {queries : List Query} {query : Query} {name : Text}
    (h : declaration queries name = some query) : query ∈ queries ∧ getQueryName query = name := by
  have hmem := List.mem_filter.mp (List.mem_of_getLast? h)
  exact ⟨hmem.1, by simpa using hmem.2⟩

theorem declaration_eq_none_iff {queries : List Query} {name : Text} :
    declaration queries name = none ↔ ∀ query ∈ queries, getQueryName query ≠ name := by
  simp [declaration]

/-- Every declaration of the name resolves the parameters of the definition. -/
def AllResolved (queries : List Query) (parsed : ParsedQuery) : Prop :=
  ∀ query ∈ queries, getQueryName query = parsed.name → Resolved query.parameters parsed.text

/-- A round of the loop concerns the queries of the name only. -/
theorem visitQuery_eq_ok_iff (parsed : ParsedQuery) (description : Option QueryDescription)
    (query : Query) (result : Option QueryDescription) :
    visitQuery parsed description query = .ok result ↔
      (getQueryName query = parsed.name → Resolved query.parameters parsed.text) ∧
        result = if getQueryName query = parsed.name then some (describe query parsed)
          else description := by
  unfold visitQuery
  by_cases hname : getQueryName query = parsed.name
  · rw [if_pos hname, if_pos hname, Except.map_eq_ok_iff]
    simp only [makeQueryDescription_eq_ok_iff]
    constructor
    · rintro ⟨_, ⟨hresolved, rfl⟩, rfl⟩
      exact ⟨fun _ => hresolved, rfl⟩
    · rintro ⟨hresolved, rfl⟩
      exact ⟨_, ⟨hresolved hname, rfl⟩, rfl⟩
  · simp [hname, eq_comm]

/-- The declaration that counts is the last one. -/
theorem foldl_visitQuery (queries : List Query) (parsed : ParsedQuery)
    (description : Option QueryDescription) :
    queries.foldl (fun description query =>
        if getQueryName query = parsed.name then some (describe query parsed) else description)
      description = ((declaration queries parsed.name).map (describe · parsed)).or description := by
  induction queries generalizing description with
  | nil => rfl
  | cons query queries ih =>
      rw [List.foldl_cons, ih]
      by_cases hname : getQueryName query = parsed.name
      · rw [declaration_cons_of_eq hname, if_pos hname]
        cases declaration queries parsed.name <;> rfl
      · rw [declaration_cons_of_ne hname, if_neg hname]

/-- The search for a declaration fails when a parameter does not resolve in one of the name. -/
theorem foldlM_visitQuery_eq_ok_iff {queries : List Query} {parsed : ParsedQuery}
    {description result : Option QueryDescription} :
    queries.foldlM (visitQuery parsed) description = .ok result ↔
      AllResolved queries parsed ∧
        result = ((declaration queries parsed.name).map (describe · parsed)).or description := by
  rw [← foldl_visitQuery]
  exact Except.foldlM_eq_ok_iff (visitQuery_eq_ok_iff parsed)

/-- A definition is described by its declaration, unless a parameter does not resolve in one of
the name. -/
theorem makeQueryDescriptionOf_eq_ok_iff {queries : List Query} {parsed : ParsedQuery}
    {description : QueryDescription} :
    makeQueryDescriptionOf queries parsed = .ok description ↔
      AllResolved queries parsed ∧ ∃ query, declaration queries parsed.name = some query ∧
        description = describe query parsed := by
  refine Except.bind_eq_ok_iff.trans ?_
  simp only [foldlM_visitQuery_eq_ok_iff]
  cases declaration queries parsed.name with
  | none => simp
  | some query => simp [eq_comm]

/-- The description of a definition. -/
def Describes (queries : List Query) (parsed : ParsedQuery) (description : QueryDescription) :
    Prop :=
  ∃ query, declaration queries parsed.name = some query ∧ description = describe query parsed

/-- Every definition is described by each of its declarations, and the last one stays. -/
theorem makeQueryDescriptions_eq_ok_iff {queries : List Query} {parsed : List ParsedQuery}
    {descriptions : List QueryDescription} :
    makeQueryDescriptions queries parsed = .ok descriptions ↔
      (∀ d ∈ parsed, AllResolved queries d) ∧
        List.Forall₂ (Describes queries) parsed descriptions := by
  unfold makeQueryDescriptions
  simp only [Except.mapM_eq_ok_iff, makeQueryDescriptionOf_eq_ok_iff]
  exact List.forall₂_and_left parsed descriptions

/-! ## Acceptance -/

/-- The conditions of a repository, where `name` is how a declared name is read: the declarations
are distinct, the configuration parses, the definitions are distinct, the names are the same, and
every parameter resolves. -/
structure Accepted (name : Query → Text) (conf : Text) (queries : List Query)
    (parsed : List ParsedQuery) : Prop where
  declared : (queries.map Query.name).Nodup
  parses : parseQueryConf conf = .ok parsed
  defined : (parsed.map ParsedQuery.name).Nodup
  names : ∀ n, n ∈ parsed.map ParsedQuery.name ↔ n ∈ queries.map name
  resolved : ∀ d ∈ parsed, ∀ query ∈ queries, name query = d.name → Resolved query.parameters d.text

/-- A definition that is declared has a description. -/
theorem exists_describes {queries : List Query} {parsed : List ParsedQuery}
    (h : ∀ d ∈ parsed, ∃ query ∈ queries, getQueryName query = d.name) :
    ∃ descriptions, List.Forall₂ (Describes queries) parsed descriptions := by
  induction parsed with
  | nil => exact ⟨[], .nil⟩
  | cons d parsed ih =>
      obtain ⟨descriptions, hrest⟩ := ih fun d' hd' => h d' (List.mem_cons_of_mem d hd')
      obtain ⟨query, hquery, hname⟩ := h d List.mem_cons_self
      cases hdecl : declaration queries d.name with
      | none => exact absurd hname (declaration_eq_none_iff.mp hdecl query hquery)
      | some query => exact ⟨describe query d :: descriptions, .cons ⟨query, hdecl, rfl⟩ hrest⟩

/-- A definition that is described is declared. -/
theorem declared_of_describes {queries : List Query} {parsed : List ParsedQuery}
    {descriptions : List QueryDescription}
    (h : List.Forall₂ (Describes queries) parsed descriptions) {d : ParsedQuery} (hd : d ∈ parsed) :
    d.name ∈ queries.map getQueryName := by
  obtain ⟨description, -, query, hdecl, -⟩ := Except.exists_right_of_forall₂ h hd
  obtain ⟨hquery, hname⟩ := mem_of_declaration hdecl
  exact List.mem_map.mpr ⟨query, hquery, hname⟩

/-- When there is a repository, and what it holds. -/
theorem makeQueryRepository_eq_ok_iff {conf : Text} {queries : List Query} {repository : Conf} :
    makeQueryRepository conf queries = .ok repository ↔
      ∃ parsed, Accepted getQueryName conf queries parsed ∧ ∃ descriptions,
        List.Forall₂ (Describes queries) parsed descriptions ∧
          repository = makeQueryConf descriptions := by
  unfold makeQueryRepository
  simp only [Except.bind_eq_ok_iff, checkForDuplicates, insertAll_eq_ok_iff,
    makeQueryDescriptions_eq_ok_iff]
  constructor
  -- the checks one after the other, in the order of the source
  · rintro ⟨⟨⟩, hdeclared, parsed, hparses, names, ⟨hdefined, rfl⟩, ⟨⟩, hundefined, descriptions,
      ⟨hresolved, hdescribes⟩, ⟨⟩⟩
    refine ⟨parsed, ⟨checkForDuplicateDeclarations_eq_ok_iff.mp hdeclared, hparses, hdefined,
      fun n => ⟨?_, ?_⟩, hresolved⟩, descriptions, hdescribes, rfl⟩
    · rintro hn
      obtain ⟨d, hd, rfl⟩ := List.mem_map.mp hn
      exact declared_of_describes hdescribes hd
    · rintro hn
      obtain ⟨query, hquery, rfl⟩ := List.mem_map.mp hn
      exact List.mem_reverse.mp (checkForUndefined_eq_ok_iff.mp hundefined query hquery)
  · rintro ⟨parsed, h, descriptions, hdescribes, rfl⟩
    refine ⟨(), checkForDuplicateDeclarations_eq_ok_iff.mpr h.declared, parsed, h.parses, _,
      ⟨h.defined, rfl⟩, (), checkForUndefined_eq_ok_iff.mpr fun query hquery => ?_, descriptions,
      ⟨h.resolved, hdescribes⟩, rfl⟩
    exact List.mem_reverse.mpr ((h.names _).mpr (List.mem_map_of_mem hquery))

/-- A repository is there exactly when all checks pass. -/
theorem exists_repository_iff {conf : Text} {queries : List Query} :
    (∃ repository, makeQueryRepository conf queries = .ok repository) ↔
      ∃ parsed, Accepted getQueryName conf queries parsed := by
  simp only [makeQueryRepository_eq_ok_iff]
  constructor
  · rintro ⟨repository, parsed, h, -⟩
    exact ⟨parsed, h⟩
  · rintro ⟨parsed, h⟩
    obtain ⟨descriptions, hdescribes⟩ := exists_describes fun d hd =>
      List.mem_map.mp ((h.names d.name).mp (List.mem_map_of_mem hd))
    exact ⟨_, parsed, h, descriptions, hdescribes, rfl⟩

/-- The text of a definition is found under its name. -/
theorem lookup_of_describes {queries : List Query} {parsed : List ParsedQuery}
    {descriptions : List QueryDescription}
    (h : List.Forall₂ (Describes queries) parsed descriptions)
    (hnodup : (parsed.map ParsedQuery.name).Nodup) {d : ParsedQuery} (hd : d ∈ parsed) :
    ∃ query, declaration queries d.name = some query ∧
      (makeQueryConf descriptions).queries.lookup d.name = some (describe query d).text := by
  induction h with
  | nil => cases hd
  | @cons d' description parsed descriptions hhead _ ih =>
      obtain ⟨query, hdecl, rfl⟩ := hhead
      rw [List.map_cons, List.nodup_cons] at hnodup
      rcases List.mem_cons.mp hd with rfl | hd
      · exact ⟨query, hdecl, by simp [makeQueryConf, describe]⟩
      · obtain ⟨query', hdecl', hlookup⟩ := ih hnodup.2 hd
        refine ⟨query', hdecl', ?_⟩
        -- a later definition has another name, so the first one is not in its way
        have hne : (d.name == d'.name) = false := by
          rw [beq_eq_false_iff_ne]
          intro heq
          exact hnodup.1 (heq ▸ List.mem_map_of_mem hd)
        simpa [makeQueryConf, describe, List.lookup_cons, hne] using hlookup

/-! ## Names

A declared name is read up to its first null character, and a definition cannot have one. For names
without null characters the two ways to read them are the same. -/

theorem getQueryName_eq {query : Query} (h : '\x00' ∉ query.name) :
    getQueryName query = query.name := by
  unfold getQueryName cString
  rw [List.takeWhile_eq_self_iff]
  intro x hx
  rw [unskipped_of_notMem h x hx]
  rfl

/-- The name of a section stands in a comment. -/
theorem exists_header {lines : List QueryLine} {sec : Section} (h : sec ∈ sections lines) :
    ∃ comment, .comment comment ∈ lines ∧ headerName comment = some sec.name := by
  induction lines with
  | nil => cases h
  | cons line lines ih =>
      have ih' := fun hsec => (ih hsec).imp fun c hc => And.imp_left (List.mem_cons_of_mem line) hc
      cases line with
      | text text => exact ih' h
      | comment comment =>
          cases hname : headerName comment with
          | none =>
              rw [sections_comment hname] at h
              exact ih' h
          | some name =>
              rw [sections_header hname] at h
              rcases List.mem_cons.mp h with rfl | h
              · exact ⟨comment, List.mem_cons_self, hname⟩
              · exact ih' h

/-- A defined name is a piece of the configuration. -/
theorem notMem_definedName {conf : Text} (hconf : '\x00' ∉ conf) {parsed : List ParsedQuery}
    (h : parseQueryConf conf = .ok parsed) {d : ParsedQuery} (hd : d ∈ parsed) :
    '\x00' ∉ d.name := by
  obtain ⟨lines, -, -, hparse, hcomments, -⟩ := parseQueryConf_eq hconf
  rw [hparse, parseQueryConfElements_eq_ok_iff] at h
  obtain ⟨sec, hsec, hname, -⟩ := Except.exists_left_of_forall₂ h.2 hd
  obtain ⟨comment, hcomment, hheader⟩ := exists_header hsec
  have hnul := hcomments comment hcomment
  obtain ⟨sp₁, sp₂, sp₃, term, heq, -⟩ := (phraseParse_headerDef hnul).mp hheader
  rw [hname]
  intro hmem
  apply hnul
  rw [heq]
  simp [hmem]

/-- A repository is there exactly when the names say so, and the text of a query is that of the
one definition with its name. -/
def RepositoryExact (conf : Text) (queries : List Query) : Prop :=
  ((∃ repository, makeQueryRepository conf queries = .ok repository) ↔
      ∃ parsed, Accepted Query.name conf queries parsed) ∧
    ∀ repository, makeQueryRepository conf queries = .ok repository → ∀ query ∈ queries,
      ∃ parsed, parseQueryConf conf = .ok parsed ∧ ∃ d ∈ parsed, d.name = query.name ∧
        (∀ d' ∈ parsed, d'.name = query.name → d' = d) ∧
        ∀ (V : Type) (parameters : Parameters V), repository.makeQuery query parameters =
          .ok (trim (d.text.flatMap (QueryTextElement.render query.parameters)), parameters.unpack)

/-- Without null characters the two ways to read a name agree. -/
theorem accepted_congr {conf : Text} {queries : List Query} {parsed : List ParsedQuery}
    (hnames : ∀ query ∈ queries, '\x00' ∉ query.name) :
    Accepted getQueryName conf queries parsed ↔ Accepted Query.name conf queries parsed := by
  have heq : ∀ query ∈ queries, getQueryName query = query.name :=
    fun query hquery => getQueryName_eq (hnames query hquery)
  have hmap : queries.map getQueryName = queries.map Query.name := List.map_congr_left heq
  constructor
  · rintro ⟨h₁, h₂, h₃, h₄, h₅⟩
    exact ⟨h₁, h₂, h₃, hmap ▸ h₄, fun d hd query hquery hname =>
      h₅ d hd query hquery ((heq query hquery).trans hname)⟩
  · rintro ⟨h₁, h₂, h₃, h₄, h₅⟩
    exact ⟨h₁, h₂, h₃, hmap ▸ h₄, fun d hd query hquery hname =>
      h₅ d hd query hquery ((heq query hquery).symm.trans hname)⟩

/-- A declared name with a null character is not defined. -/
theorem not_accepted {conf : Text} (hconf : '\x00' ∉ conf) {queries : List Query}
    {query : Query} (hquery : query ∈ queries) (hname : '\x00' ∈ query.name) :
    ¬ ∃ parsed, Accepted Query.name conf queries parsed := by
  rintro ⟨parsed, h⟩
  obtain ⟨d, hd, heq⟩ := List.mem_map.mp ((h.names _).mpr (List.mem_map_of_mem hquery))
  exact notMem_definedName hconf h.parses hd (heq ▸ hname)

/-- The text of a declared query is made from the one definition with its name as it is read, for
the declaration that counts for that name. -/
theorem makeQuery_of_repository {conf : Text} {queries : List Query} {repository : Conf}
    (h : makeQueryRepository conf queries = .ok repository) {query : Query}
    (hquery : query ∈ queries) :
    ∃ parsed, Accepted getQueryName conf queries parsed ∧ ∃ d ∈ parsed,
      d.name = getQueryName query ∧ ∃ other, declaration queries d.name = some other ∧
        ∀ (V : Type) (parameters : Parameters V), repository.makeQuery query parameters =
          .ok ((describe other d).text, parameters.unpack) := by
  obtain ⟨parsed, haccepted, descriptions, hdescribes, rfl⟩ := makeQueryRepository_eq_ok_iff.mp h
  obtain ⟨d, hd, hdname⟩ :=
    List.mem_map.mp ((haccepted.names _).mpr (List.mem_map_of_mem hquery))
  obtain ⟨other, hdecl, hlookup⟩ := lookup_of_describes hdescribes haccepted.defined hd
  refine ⟨parsed, haccepted, d, hd, hdname, other, hdecl, fun V parameters => ?_⟩
  rw [hdname] at hlookup
  simp [Conf.makeQuery, Conf.getDescription, hlookup, Except.map]

/-- That is the query itself when the declared names have no null character. -/
theorem makeQuery_of_names {conf : Text} {queries : List Query} {repository : Conf}
    (hnames : ∀ query ∈ queries, '\x00' ∉ query.name)
    (h : makeQueryRepository conf queries = .ok repository) {query : Query}
    (hquery : query ∈ queries) :
    ∃ parsed, parseQueryConf conf = .ok parsed ∧ ∃ d ∈ parsed, d.name = query.name ∧
      (∀ d' ∈ parsed, d'.name = query.name → d' = d) ∧
      ∀ (V : Type) (parameters : Parameters V), repository.makeQuery query parameters =
        .ok (trim (d.text.flatMap (QueryTextElement.render query.parameters)),
          parameters.unpack) := by
  obtain ⟨parsed, haccepted, d, hd, hdname, other, hdecl, hmake⟩ :=
    makeQuery_of_repository h hquery
  rw [getQueryName_eq (hnames query hquery)] at hdname
  refine ⟨parsed, haccepted.parses, d, hd, hdname, fun d' hd' hname' => ?_, ?_⟩
  · exact List.inj_on_of_nodup_map haccepted.defined hd' hd (hname'.trans hdname.symm)
  obtain ⟨hother, hname⟩ := mem_of_declaration hdecl
  -- the declarations are distinct, so this one is the query
  obtain rfl : other = query := by
    rw [getQueryName_eq (hnames other hother), hdname] at hname
    exact List.inj_on_of_nodup_map haccepted.declared hother hquery hname
  exact hmake

/-- There is a repository exactly when the names say so, unless a declared name has a null
character and the names are right when they are cut there. -/
theorem repositoryExact_iff (conf : Text) (hconf : '\x00' ∉ conf) (queries : List Query) :
    RepositoryExact conf queries ↔
      (∀ query ∈ queries, '\x00' ∉ query.name) ∨
        ¬ ∃ parsed, Accepted getQueryName conf queries parsed := by
  by_cases hnames : ∀ query ∈ queries, '\x00' ∉ query.name
  · refine iff_of_true ⟨?_, fun repository h query hquery => ?_⟩ (.inl hnames)
    · rw [exists_repository_iff]
      exact exists_congr fun parsed => accepted_congr hnames
    · exact makeQuery_of_names hnames h hquery
  -- a name with a null character is no name of a definition
  · have hnot : ¬ ∃ parsed, Accepted Query.name conf queries parsed := by
      push Not at hnames
      obtain ⟨query, hquery, hname⟩ := hnames
      exact not_accepted hconf hquery hname
    rw [RepositoryExact, exists_repository_iff, or_iff_right hnames]
    constructor
    · rintro ⟨hiff, -⟩ haccepted
      exact hnot (hiff.mp haccepted)
    · intro haccepted
      refine ⟨iff_of_false haccepted hnot, fun repository h => ?_⟩
      exact absurd (exists_repository_iff.mp ⟨repository, h⟩) haccepted

/-- The query of `pairConf` has the name it is declared with. -/
theorem repositoryExact_pair : RepositoryExact pairConf [pairQuery] :=
  (repositoryExact_iff pairConf (by decide) [pairQuery]).mpr (.inl (by decide))

/-- A declared query whose name goes on after a null character. -/
def cutQuery : Query := ⟨"pair\x00s".toList, .struct ["a".toList, "b".toList]⟩

/-- The definition of another name is taken for that of `cutQuery`. -/
theorem not_repositoryExact_cut :
    (∃ repository, makeQueryRepository pairConf [cutQuery] = .ok repository) ∧
      ¬ RepositoryExact pairConf [cutQuery] := by
  have hok : ∃ repository, makeQueryRepository pairConf [cutQuery] = .ok repository := ⟨_, rfl⟩
  refine ⟨hok, fun hexact => ?_⟩
  obtain ⟨parsed, haccepted⟩ := hexact.1.mp hok
  -- the only defined name is the one before the null character
  obtain rfl : parsed = [pairParsed] := by
    have hparse : parseQueryConf pairConf = .ok [pairParsed] := by decide
    exact Except.ok.inj (haccepted.parses.symm.trans hparse)
  have hdefined := (haccepted.names cutQuery.name).mpr List.mem_cons_self
  revert hdefined
  decide

end OzoPg.QueryConf
