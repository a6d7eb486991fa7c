import Mobula.Api.Edge

/-!
# Relayed headers

What the gateway and the standalone proxy, which have the same code for it, pass
on of the headers of a request and of a response. A header map is a multimap; it is
the list of its entries here, and only the values of a name have an order.
-/

namespace Mobula

/-- A name is not empty and kept in lower case. -/
structure HeaderName where
  text : String
  nonempty : text.toList ≠ []
  lower : text.toList.map Char.toLower = text.toList
  deriving DecidableEq

abbrev HeaderMap := List (HeaderName × HeaderValue)

namespace HeaderMap

def getAll (headers : HeaderMap) (name : HeaderName) : List HeaderValue :=
  headers.filterMap fun entry => if entry.1 = name then some entry.2 else none

def append (headers : HeaderMap) (entry : HeaderName × HeaderValue) : HeaderMap :=
  headers ++ [entry]

/-- The only value of a name from now on. -/
def insert (headers : HeaderMap) (entry : HeaderName × HeaderValue) : HeaderMap :=
  headers.filter (·.1 ≠ entry.1) ++ [entry]

end HeaderMap

def CONNECTION : HeaderName := ⟨"connection", by decide, by decide⟩

def HeaderValue.chars (value : HeaderValue) : List Char :=
  value.map fun byte => Char.ofNat byte.toNat

/-- A readable value has no white space but blanks and tabs. -/
def trimBlanks (text : List Char) : List Char :=
  let isBlank (c : Char) : Bool := c = ' ' || c = '\t'
  ((text.dropWhile isBlank).reverse.dropWhile isBlank).reverse

def elementNames (text : List Char) : List (List Char) :=
  (text.splitOn ',').map fun element => (trimBlanks element).map Char.toLower

def connectionNominated (headers : HeaderMap) : List (List Char) :=
  (((headers.getAll CONNECTION).filterMap HeaderValue.toStr).flatMap
    fun text => elementNames text.toList).filter (· ≠ [])

def isHopByHop (name : HeaderName) : Bool :=
  name.text ∈ ["connection", "keep-alive", "proxy-authenticate", "proxy-authorization", "te",
    "trailer", "transfer-encoding", "upgrade"]

def isForwarded (name : HeaderName) : Bool :=
  name.text = "x-forwarded-for" || name.text = "x-forwarded-host" ||
    name.text = "x-forwarded-proto"

/-- Headers meant for the proxy itself. -/
def isNorthbound (name : HeaderName) : Bool :=
  name.text ∈ ["host", "authorization", "content-length", "cookie", "forwarded"]

/-- Headers that are not passed on to the cluster. -/
def southboundSkips (inbound : HeaderMap) (name : HeaderName) : Bool :=
  isHopByHop name || name.text.toList ∈ connectionNominated inbound || isNorthbound name ||
    isForwarded name

def southboundHeaders (inbound : HeaderMap) : HeaderMap :=
  inbound.foldl (fun headers entry =>
    if southboundSkips inbound entry.1 then headers else headers.append entry) []

/-- Headers that tell where the cluster is. -/
def isTopology (name : HeaderName) : Bool :=
  name.text = "location" || name.text = "server"

/-- Headers that are not passed back to the caller. -/
def responseSkips (upstream : HeaderMap) (name : HeaderName) : Bool :=
  isHopByHop name || name.text.toList ∈ connectionNominated upstream || isTopology name

def responseHeaders (upstream : HeaderMap) : HeaderMap :=
  upstream.foldl (fun headers entry =>
    if responseSkips upstream entry.1 then headers else headers.insert entry) []

variable {headers inbound upstream : HeaderMap} {name : HeaderName} {skip : HeaderName → Bool}
  {entry : HeaderName × HeaderValue}

@[simp]
theorem getAll_nil : HeaderMap.getAll [] name = [] := rfl

@[simp]
theorem getAll_cons : HeaderMap.getAll (entry :: headers) name =
    (if entry.1 = name then [entry.2] else []) ++ headers.getAll name := by
  by_cases same : entry.1 = name <;> simp [HeaderMap.getAll, same]

@[simp]
theorem getAll_append : (headers.append entry).getAll name =
    headers.getAll name ++ if entry.1 = name then [entry.2] else [] := by
  induction headers with
  | nil => simp [HeaderMap.append]
  | cons first headers ih => simpa [HeaderMap.append] using ih

@[simp]
theorem getAll_insert : (headers.insert entry).getAll name =
    if entry.1 = name then [entry.2] else headers.getAll name := by
  induction headers with
  | nil => simp [HeaderMap.insert]
  | cons first headers ih =>
    by_cases replaced : first.1 = entry.1
    · by_cases same : entry.1 = name <;> simpa [HeaderMap.insert, replaced, same] using ih
    · by_cases same : entry.1 = name
      · subst same
        simpa [HeaderMap.insert, replaced] using ih
      · simpa [HeaderMap.insert, replaced, same] using ih

theorem getAll_foldl_append {start : HeaderMap} : HeaderMap.getAll (inbound.foldl
    (fun headers entry => if skip entry.1 then headers else headers.append entry) start) name =
      start.getAll name ++ if skip name then [] else inbound.getAll name := by
  induction inbound generalizing start with
  | nil => simp
  | cons entry inbound ih =>
    rw [List.foldl_cons, ih]
    by_cases same : entry.1 = name
    · by_cases skipped : skip name <;> simp [same, skipped]
    · by_cases skipped : skip entry.1 <;> simp [same, skipped]

/-- The last value replaces those before it. -/
theorem getAll_foldl_insert (start : HeaderMap) : HeaderMap.getAll (upstream.foldl
    (fun headers entry => if skip entry.1 then headers else headers.insert entry) start) name =
      if skip name then start.getAll name
      else ((upstream.getAll name).getLast?.map ([·])).getD (start.getAll name) := by
  induction upstream generalizing start with
  | nil => simp
  | cons entry upstream ih =>
    rw [List.foldl_cons, ih]
    by_cases same : entry.1 = name
    · by_cases skipped : skip name
      · simp [same, skipped]
      · cases last : (HeaderMap.getAll upstream name).getLast? <;>
          simp [same, skipped, List.getLast?_cons, last]
    · by_cases skipped : skip entry.1 <;> simp [same, skipped]

theorem last_eq_nil_iff {values : List HeaderValue} :
    (values.getLast?.map ([·])).getD [] = [] ↔ values = [] := by
  rcases values.eq_nil_or_concat with rfl | ⟨front, last, rfl⟩ <;> simp

theorem last_eq_iff {values : List HeaderValue} (filled : values ≠ []) :
    (values.getLast?.map ([·])).getD [] = values ↔ values.length = 1 := by
  rw [List.getLast?_eq_some_getLast filled, List.length_eq_one_iff]
  constructor
  · intro same
    exact ⟨_, same.symm⟩
  · rintro ⟨value, rfl⟩
    rfl

/-- The name is an element of a value of the `Connection` header that is not all visible. -/
def NamedUnreadably (headers : HeaderMap) (name : HeaderName) : Prop :=
  ∃ value ∈ headers.getAll CONNECTION, value.toStr = none ∧
    name.text.toList ∈ elementNames value.chars

/-- The name is an element of a value of the `Connection` header, whatever else is in it. -/
def Nominated (headers : HeaderMap) (name : HeaderName) : Prop :=
  ∃ value ∈ headers.getAll CONNECTION, name.text.toList ∈ elementNames value.chars

theorem toStr_eq (value : HeaderValue) :
    value.toStr = none ∨ value.toStr = some (String.ofList value.chars) := by
  unfold HeaderValue.toStr
  split <;> simp [HeaderValue.chars]

theorem nominated_iff : Nominated headers name ↔
    name.text.toList ∈ connectionNominated headers ∨ NamedUnreadably headers name := by
  simp only [connectionNominated, List.mem_filter, List.mem_flatMap, List.mem_filterMap,
    name.nonempty, ne_eq, not_false_eq_true, decide_true, and_true]
  constructor
  · rintro ⟨value, valueMem, named⟩
    rcases toStr_eq value with unreadable | read
    · exact .inr ⟨value, valueMem, unreadable, named⟩
    · exact .inl ⟨_, ⟨value, valueMem, read⟩, by rwa [String.toList_ofList]⟩
  · rintro (⟨text, ⟨value, valueMem, read⟩, named⟩ | ⟨value, valueMem, _, named⟩)
    · rcases toStr_eq value with unreadable | same
      · simp [unreadable] at read
      · rw [same, Option.some.injEq] at read
        rw [← read, String.toList_ofList] at named
        exact ⟨value, valueMem, named⟩
    · exact ⟨value, valueMem, named⟩

/-- A result is what remains of the values of a name exactly if nothing of a name that is passed on
is to be withheld or is lost. -/
theorem relayed_iff {skip : Bool} {withheld : Prop} {values kept result : List HeaderValue}
    (is : result = if skip then [] else kept) (sound : skip = true → withheld)
    (empty : kept = [] ↔ values = []) :
    ((withheld → result = []) ∧ (¬ withheld → result = values)) ↔
      (values ≠ [] → skip = false → ¬ withheld ∧ kept = values) := by
  cases skip with
  | true => simp [is, sound rfl]
  | false =>
    by_cases held : withheld <;> by_cases none : values = [] <;> simp_all

def isXForwarded (name : HeaderName) : Bool :=
  "x-forwarded-".toList.isPrefixOf name.text.toList

theorem isXForwarded_of_isForwarded (forwarded : isForwarded name = true) :
    isXForwarded name = true := by
  simp only [isForwarded, Bool.or_eq_true, decide_eq_true_eq] at forwarded
  rcases forwarded with (same | same) | same <;> rw [isXForwarded, same] <;> decide

/-- What must not go south. -/
def WithheldSouth (inbound : HeaderMap) (name : HeaderName) : Prop :=
  isHopByHop name ∨ Nominated inbound name ∨ isNorthbound name ∨ isXForwarded name

/-- A request is passed on without what must be withheld, and otherwise as it is, exactly if no
header that is passed on has a further `x-forwarded-` name or one that a value of the `Connection`
header with other than visible characters has among its elements. -/
theorem southbound_exact_iff (inbound : HeaderMap) :
    (∀ name, (WithheldSouth inbound name → (southboundHeaders inbound).getAll name = []) ∧
      (¬ WithheldSouth inbound name →
        (southboundHeaders inbound).getAll name = inbound.getAll name)) ↔
    ∀ name, inbound.getAll name ≠ [] → southboundSkips inbound name = false →
      isXForwarded name = false ∧ ¬ NamedUnreadably inbound name := by
  refine forall_congr' fun name => ?_
  have passes : southboundSkips inbound name = false ↔ isHopByHop name = false ∧
      name.text.toList ∉ connectionNominated inbound ∧ isNorthbound name = false ∧
      isForwarded name = false := by
    simp [southboundSkips, and_assoc]
  have forwarded := @isXForwarded_of_isForwarded name
  have sound : southboundSkips inbound name = true → WithheldSouth inbound name := by
    rw [← Bool.not_eq_false, passes, WithheldSouth, nominated_iff]
    grind
  refine (relayed_iff getAll_foldl_append sound Iff.rfl).trans ?_
  refine imp_congr_right fun _ => imp_congr_right fun passed => ?_
  have passed := passes.mp passed
  simp [WithheldSouth, nominated_iff, passed, and_comm]

def X_FORWARDED_PORT : HeaderName := ⟨"x-forwarded-port", by decide, by decide⟩

def X_SECRET : HeaderName := ⟨"x-secret", by decide, by decide⟩

/-- The elements `x-secret` and one that is not visible. -/
def smuggling : HeaderMap :=
  [(CONNECTION, [120, 45, 115, 101, 99, 114, 101, 116, 44, 233]), (X_SECRET, [49])]

/-- A port of the client's choice goes south, and so does a header that the client nominated. -/
theorem southbound_passes_withheld :
    (WithheldSouth [(X_FORWARDED_PORT, [49])] X_FORWARDED_PORT ∧
      (southboundHeaders [(X_FORWARDED_PORT, [49])]).getAll X_FORWARDED_PORT = [[49]]) ∧
    WithheldSouth smuggling X_SECRET ∧
      (southboundHeaders smuggling).getAll X_SECRET = [[49]] := by
  refine ⟨⟨.inr (.inr (.inr (by decide))), by decide⟩, .inr (.inl ?_), by decide⟩
  exact ⟨_, List.mem_cons_self, by decide⟩

/-- What must not come back. -/
def WithheldNorth (upstream : HeaderMap) (name : HeaderName) : Prop :=
  isHopByHop name ∨ Nominated upstream name ∨ isTopology name

/-- A response is passed on without loss exactly if no header that is passed on has a second value,
or is an element of a value of the `Connection` header with other than visible characters. -/
theorem response_exact_iff (upstream : HeaderMap) :
    (∀ name, (WithheldNorth upstream name → (responseHeaders upstream).getAll name = []) ∧
      (¬ WithheldNorth upstream name →
        (responseHeaders upstream).getAll name = upstream.getAll name)) ↔
    ∀ name, upstream.getAll name ≠ [] → responseSkips upstream name = false →
      (upstream.getAll name).length = 1 ∧ ¬ NamedUnreadably upstream name := by
  refine forall_congr' fun name => ?_
  have passes : responseSkips upstream name = false ↔ isHopByHop name = false ∧
      name.text.toList ∉ connectionNominated upstream ∧ isTopology name = false := by
    simp [responseSkips, and_assoc]
  have sound : responseSkips upstream name = true → WithheldNorth upstream name := by
    rw [← Bool.not_eq_false, passes, WithheldNorth, nominated_iff]
    grind
  refine (relayed_iff (getAll_foldl_insert []) sound last_eq_nil_iff).trans ?_
  refine imp_congr_right fun filled => imp_congr_right fun passed => ?_
  have passed := passes.mp passed
  rw [getAll_nil, last_eq_iff filled]
  simp [WithheldNorth, nominated_iff, passed, and_comm]

def SET_COOKIE : HeaderName := ⟨"set-cookie", by decide, by decide⟩

/-- Of two cookies that are set, the second remains. -/
theorem response_loses_cookie :
    ¬ WithheldNorth [(SET_COOKIE, [97]), (SET_COOKIE, [98])] SET_COOKIE ∧
      (responseHeaders [(SET_COOKIE, [97]), (SET_COOKIE, [98])]).getAll SET_COOKIE = [[98]] := by
  refine ⟨?_, by decide⟩
  rintro (hop | ⟨_, ⟨⟩, _⟩ | topology)
  · revert hop
    decide
  · revert topology
    decide

end Mobula
