import DocQuery.Proofs.DraftAnswers
import DocQuery.Proofs.StableSorting
import DocQuery.Store.Basic

/-! Paging by bookmarks. A bookmark says how many documents of a search lie before the next page, so two
pages that follow each other are one page of their joint size, and page after page a search is enumerated
once and in order. -/

namespace DocQuery

theorem readCount?_toDigits (count : Nat) :
    readCount? (Nat.toDigits 10 count) = if count < natBound64 then some count else none := by
  have digits : ∀ digit ∈ Nat.toDigits 10 count, digit.isDigit := fun digit among =>
    Nat.isDigit_of_mem_toDigits (by decide) (by decide) among
  have value : (Nat.toDigits 10 count).foldl
      (fun total digit => total * 10 + (digit.toNat - '0'.toNat)) 0 = count := by
    have read : Nat.ofDigitChars 10 (Nat.toDigits 10 count) 0 = count :=
      Nat.ofDigitChars_toDigits (by decide) (by decide)
    rw [Nat.ofDigitChars_eq_foldl] at read
    simpa only [Nat.mul_comm] using read
  unfold readCount?
  split
  next rest same =>
    -- A plus sign is no digit.
    have sign := digits '+' (by simp [same])
    cases sign
  · simp only [value, List.all_eq_true.mpr digits]
    simp [Nat.toDigits_ne_nil]

/-- A bookmark is read as the offset that it was written with, as far as 64 bits go. -/
theorem readBookmark_writeBookmark (offset : Nat) :
    readBookmark (writeBookmark offset) = if offset < natBound64 then .ok offset else
      .error (.database (.ofResponse 400 "invalid_bookmark" "Invalid bookmark value")) := by
  have text : (writeBookmark offset).toList = bookmarkLabel.toList ++ Nat.toDigits 10 offset := by
    have label : toString bookmarkLabel = bookmarkLabel := rfl
    simp [writeBookmark, String.toList_append, label]
  simp only [readBookmark, text, List.take_left, List.drop_left, if_true, readCount?_toDigits]
  by_cases word : offset < natBound64 <;> simp [word]

namespace FindRequest

/-- A request with a key put in place or at the end, or left out. -/
def setTo (request : FindRequest) (key : String) : Option Json → FindRequest
  | some value => ⟨request.body.insert key value⟩
  | none => ⟨request.body.filter (·.1 ≠ key)⟩

theorem get?_setTo (request : FindRequest) (key other : String) (value : Option Json) :
    (request.setTo key value).get? other = if key = other then value else request.get? other := by
  cases value with
  | some value => exact Entries.get?_insert request.body key other value
  | none =>
    obtain ⟨body⟩ := request
    simp only [setTo, get?]
    induction body with
    | nil => simp
    | cons entry rest ih =>
      obtain ⟨name, held⟩ := entry
      by_cases left : name = key
      · subst left
        by_cases same : name = other <;> simp_all [Entries.get?]
      · by_cases same : name = other
        · subst same
          simp [Entries.get?, left, Ne.symm left]
        · simpa [Entries.get?, left, same] using ih

/-- The request for a page of what a request searches for. -/
def page (search : FindRequest) (bookmark : Option String) (skip limit : Option Nat) : FindRequest :=
  ((search.setTo "bookmark" (bookmark.map .string)).setTo "skip" (skip.map .ofNat)).setTo "limit"
    (limit.map .ofNat)

/-- All that a request searches for, whatever page of it the request asks for. -/
def found (search : FindRequest) (documents : List Json) : Except Error (List Json) := do
  let matched ← search.matching documents
  return search.projected (sortDocuments (← search.sortKeys) matched)

variable (search : FindRequest) (bookmark : Option String) (skip limit : Option Nat)
  (documents : List Json)

theorem get?_page {key : String} (unpaged : key ∉ ["bookmark", "skip", "limit"]) :
    (search.page bookmark skip limit).get? key = search.get? key := by
  simp only [List.mem_cons, List.not_mem_nil, or_false, not_or] at unpaged
  simp [page, get?_setTo, Ne.symm unpaged.1, Ne.symm unpaged.2.1, Ne.symm unpaged.2.2]

theorem found_page : (search.page bookmark skip limit).found documents = search.found documents := by
  simp (disch := decide) only [found, matching, condition, selector?, sortKeys, projected, fieldPaths?,
    get?_page]

theorem projected_eq_map :
    ∃ shape : Json → Json, ∀ items, search.projected items = items.map shape := by
  unfold projected
  cases search.fieldPaths? with
  | some paths => exact ⟨_, fun items => rfl⟩
  | none => exact ⟨id, fun items => (List.map_id items).symm⟩

theorem PageBounds.cut_map (bounds : PageBounds) (shape : Json → Json) (items : List Json) :
    bounds.cut (items.map shape) = (bounds.cut items).map shape := by
  unfold PageBounds.cut
  cases bounds.limit <;> simp

/-- An answer is a page of what the request searches for. -/
theorem answer_eq (request : FindRequest) (warning : Option String) (documents : List Json) :
    request.answer warning documents = request.found documents >>= fun items =>
      request.pageBounds.map fun bounds => {
        docs := bounds.cut items
        bookmark := some (writeBookmark (bounds.start + (bounds.cut items).length))
        executionStats := request.statistics? documents.length (bounds.cut items).length
        warning } := by
  obtain ⟨shape, projected⟩ := request.projected_eq_map
  simp only [answer, found, projected]
  cases request.matching documents with
  | error failure => rfl
  | ok matched =>
    cases request.sortKeys with
    | error failure => rfl
    | ok keys =>
      cases request.pageBounds with
      | error failure => rfl
      | ok bounds => simp [PageBounds.cut_map]

/-- The number of documents before the page of a bookmark. -/
def startOf : Option String → Except Error Nat
  | none => .ok 0
  | some bookmark => readBookmark bookmark

theorem count?_eq_ok {request : FindRequest} {key : String} {count read : Option Nat}
    (held : request.get? key = count.map .ofNat) :
    request.count? key = .ok read ↔ (∀ number ∈ count, number < natBound64) ∧ read = count := by
  cases count with
  | none =>
    rw [count?, held]
    simp [eq_comm]
  | some number =>
    by_cases word : number < natBound64
    · rw [RequestDraft.count?_of_some held word]
      simp [word, eq_comm]
    · have refused : (Json.ofNat number).asNat64? = none := if_neg (by omega)
      rw [count?, held]
      simp [refused, word]

variable {search bookmark skip limit documents}

theorem pageBounds_page {bounds : PageBounds} :
    (search.page bookmark skip limit).pageBounds = .ok bounds ↔
      ∃ offset, startOf bookmark = .ok offset ∧ (∀ number ∈ skip, number < natBound64) ∧
        (∀ number ∈ limit, number < natBound64) ∧
        bounds = ⟨min (offset + skip.getD 0) (natBound64 - 1), limit⟩ := by
  have start : (search.page bookmark skip limit).bookmarkOffset = startOf bookmark := by
    have held : (search.page bookmark skip limit).get? "bookmark" = bookmark.map .string := by
      simp [page, get?_setTo]
    rw [bookmarkOffset, held]
    cases bookmark <;> rfl
  have skipped : (search.page bookmark skip limit).get? "skip" = skip.map .ofNat := by
    simp [page, get?_setTo]
  have limited : (search.page bookmark skip limit).get? "limit" = limit.map .ofNat := by
    simp [page, get?_setTo]
  simp only [pageBounds, start, bind_eq_ok, count?_eq_ok skipped, count?_eq_ok limited, pure_eq_ok]
  constructor
  · rintro ⟨offset, read, _, ⟨ofSkip, rfl⟩, _, ⟨ofLimit, rfl⟩, made⟩
    exact ⟨offset, read, ofSkip, ofLimit, (Except.ok.inj made).symm⟩
  · rintro ⟨offset, read, ofSkip, ofLimit, rfl⟩
    exact ⟨offset, read, _, ⟨ofSkip, rfl⟩, _, ⟨ofLimit, rfl⟩, rfl⟩

end FindRequest

/-- A page of so many items from a place on, which says where the next page starts. -/
structure FindResponse.Shows (response : FindResponse) (items : List Json) (start size : Nat) :
    Prop where
  docs : response.docs = (items.drop start).take size
  bookmark : response.bookmark = some (writeBookmark (start + response.docs.length))

namespace FindRequest

variable {search : FindRequest} {bookmark : Option String} {skip : Option Nat} {size : Nat}
  {documents items : List Json} {warning : Option String} {response : FindResponse}

/-- Where the page of a bookmark starts, when further documents are skipped. -/
def pageStart (offset : Nat) (skip : Option Nat) : Nat := min (offset + skip.getD 0) (natBound64 - 1)

theorem pageStart_none {offset : Nat} (word : offset < natBound64) : pageStart offset none = offset := by
  rw [pageStart, Option.getD_none, Nat.add_zero]
  omega

/-- A bookmark leads to where its page ends. -/
theorem startOf_eq_ok {items : List Json} {start size offset : Nat}
    (shows : response.Shows items start size) :
    startOf response.bookmark = .ok offset ↔
      offset = start + response.docs.length ∧ offset < natBound64 := by
  rw [shows.bookmark, startOf, readBookmark_writeBookmark]
  split
  · simp only [Except.ok.injEq]
    omega
  · simp only [reduceCtorEq, false_iff, not_and]
    omega

theorem shows_of_answer
    (answered : (search.page bookmark skip (some size)).answer warning documents = .ok response) :
    ∃ items offset, search.found documents = .ok items ∧ startOf bookmark = .ok offset ∧
      (∀ number ∈ skip, number < natBound64) ∧ response.Shows items (pageStart offset skip) size := by
  rw [answer_eq, found_page] at answered
  obtain ⟨items, found, paged⟩ := bind_eq_ok.mp answered
  obtain ⟨bounds, bounded, rfl⟩ := map_eq_ok.mp paged
  obtain ⟨offset, start, words, _, rfl⟩ := pageBounds_page.mp bounded
  exact ⟨items, offset, found, start, words, rfl, rfl⟩

theorem exists_answer (found : search.found documents = .ok items) {offset : Nat}
    (start : startOf bookmark = .ok offset) (skipped : ∀ number ∈ skip, number < natBound64)
    (word : size < natBound64) (warning : Option String) :
    ∃ response, (search.page bookmark skip (some size)).answer warning documents = .ok response ∧
      response.Shows items (pageStart offset skip) size := by
  have bounded : (search.page bookmark skip (some size)).pageBounds =
      .ok ⟨pageStart offset skip, some size⟩ :=
    pageBounds_page.mpr ⟨offset, start, skipped, by simpa using word, rfl⟩
  rw [answer_eq, found_page, found, ok_bind, bounded]
  exact ⟨_, rfl, rfl, rfl⟩

end FindRequest

section Items

variable {α : Type} (items : List α) (start size : Nat)

/-- After a page that is not full there is nothing left. -/
theorem drop_after_page (further : Nat) :
    items.drop (start + ((items.drop start).take size).length + further) =
      items.drop (start + size + further) := by
  by_cases full : size ≤ (items.drop start).length
  · rw [List.length_take_of_le full]
  · have short := List.length_drop (l := items) (i := start)
    rw [List.length_take, List.drop_eq_nil_of_le (by omega), List.drop_eq_nil_of_le (by omega)]

/-- Two pages that follow each other are one page. -/
theorem page_append_page (other : Nat) :
    (items.drop start).take size ++
        (items.drop (start + ((items.drop start).take size).length)).take other =
      (items.drop start).take (size + other) := by
  have rest := drop_after_page items start size 0
  rw [Nat.add_zero, Nat.add_zero] at rest
  rw [rest, List.take_add, List.drop_drop]

theorem flatten_pages (count : Nat) :
    ((List.range count).map fun n => (items.drop (n * size)).take size).flatten =
      items.take (count * size) := by
  induction count with
  | zero => simp
  | succ count ih =>
    rw [List.range_succ, List.map_append, List.flatten_append, ih, Nat.succ_mul, List.take_add]
    simp

end Items

theorem FindResponse.Shows.append {items : List Json} {start size other : Nat}
    {page next whole : FindResponse} (first : page.Shows items start size)
    (second : next.Shows items (start + page.docs.length) other)
    (both : whole.Shows items start (size + other)) :
    whole.docs = page.docs ++ next.docs ∧ whole.bookmark = next.bookmark := by
  have joined : whole.docs = page.docs ++ next.docs := by
    rw [both.docs, second.docs, first.docs, page_append_page]
  refine ⟨joined, ?_⟩
  rw [both.bookmark, second.bookmark, joined, List.length_append, Nat.add_assoc]

/-- A page ends within 64 bits, if the items are counted in 64 bits and the page starts there. -/
theorem FindRequest.PageBounds.end_lt {bounds : PageBounds} (begun : bounds.start < natBound64)
    {items : List Json} (counted : items.length < natBound64) :
    bounds.start + (bounds.cut items).length < natBound64 := by
  have fits : (bounds.cut items).length ≤ items.length - bounds.start := by
    rw [← List.length_drop, cut]
    cases bounds.limit with
    | none => exact Nat.le_refl _
    | some limit => exact List.length_take_le' limit _
  omega

theorem length_keepItems_le {test : Json → Except Error Bool} {items kept : List Json}
    (keeping : keepItems test items = .ok kept) : kept.length ≤ items.length := by
  induction items generalizing kept with
  | nil =>
    cases keeping
    exact Nat.le_refl 0
  | cons item rest ih =>
    obtain ⟨held, _, further⟩ := bind_eq_ok.mp keeping
    cases held with
    | true =>
      obtain ⟨others, remaining, made⟩ := bind_eq_ok.mp further
      cases made
      exact Nat.succ_le_succ (ih remaining)
    | false => exact Nat.le_succ_of_le (ih further)

namespace FindRequest

variable {search request : FindRequest} {documents items : List Json}

theorem length_found_le (found : search.found documents = .ok items) :
    items.length ≤ documents.length := by
  obtain ⟨matched, matching, further⟩ := bind_eq_ok.mp found
  obtain ⟨keys, _, made⟩ := bind_eq_ok.mp further
  obtain ⟨shape, projected⟩ := search.projected_eq_map
  cases made
  rw [projected, List.length_map]
  have sorted : (sortDocuments keys matched).Perm matched := sortBy_perm (SortKey.compareAll keys) matched
  exact Nat.le_trans (Nat.le_of_eq sorted.length_eq) (length_keepItems_le matching)

/-- No sum that is made for an answer goes beyond 64 bits. The first one stops there, the second one is
the offset of the bookmark. -/
theorem bookmark_answer (counted : documents.length < natBound64) {warning : Option String}
    {response : FindResponse} (answered : request.answer warning documents = .ok response) :
    ∃ bounds, request.pageBounds = .ok bounds ∧ bounds.start + response.docs.length < natBound64 ∧
      response.bookmark = some (writeBookmark (bounds.start + response.docs.length)) := by
  rw [answer_eq] at answered
  obtain ⟨items, found, paged⟩ := bind_eq_ok.mp answered
  obtain ⟨bounds, bounded, rfl⟩ := map_eq_ok.mp paged
  have begun : bounds.start < natBound64 := by
    obtain ⟨offset, _, further⟩ := bind_eq_ok.mp bounded
    obtain ⟨skip, _, further⟩ := bind_eq_ok.mp further
    obtain ⟨limit, _, made⟩ := bind_eq_ok.mp further
    cases made
    exact Nat.lt_of_le_of_lt (Nat.min_le_right _ _) (by decide)
  exact ⟨bounds, bounded,
    PageBounds.end_lt begun (Nat.lt_of_le_of_lt (length_found_le found) counted), rfl⟩

end FindRequest

namespace Store

variable {store : Store} {database : String} {request search : FindRequest} {response : FindResponse}
  {documents items : List Json}

theorem respond_eq_ok : store.respond database request = .ok response ↔
    store.failure = none ∧ ∃ documents, store.databases.get? database = some documents ∧
      request.answer store.warning documents = .ok response := by
  unfold respond
  cases store.failure with
  | some failure => simp
  | none => cases store.databases.get? database <;> simp

/-- The documents of so many pages, each asked for by the bookmark of the page before it. -/
def follow (store : Store) (database : String) (search : FindRequest) (size : Nat) :
    Nat → Option String → Except Error (List (List Json))
  | 0, _ => .ok []
  | count + 1, bookmark => do
    let (answered, next) := store.answer database (search.page bookmark none (some size))
    let page ← answered
    return page.docs :: (← next.follow database search size count page.bookmark)

/-- Pages that are asked for one after the other show the items in pieces of their size. -/
theorem follow_eq (held : store.databases.get? database = some documents) (ready : store.failure = none)
    (found : search.found documents = .ok items) (counted : documents.length < natBound64) {size : Nat}
    (word : size < natBound64) (count : Nat) {bookmark : Option String} {start : Nat}
    (begun : start < natBound64) (reads : FindRequest.startOf bookmark = .ok start) :
    store.follow database search size count bookmark =
      .ok ((List.range count).map fun n => (items.drop (start + n * size)).take size) := by
  induction count generalizing store bookmark start with
  | zero => rfl
  | succ count ih =>
    obtain ⟨page, answered, shows⟩ : ∃ page,
        (search.page bookmark none (some size)).answer store.warning documents = .ok page ∧
          page.Shows items (FindRequest.pageStart start none) size :=
      FindRequest.exists_answer found reads (fun _ impossible => by cases impossible) word store.warning
    rw [FindRequest.pageStart_none begun] at shows
    have response := respond_eq_ok.mpr ⟨ready, documents, held, answered⟩
    have within : start + page.docs.length < natBound64 := by
      rw [shows.docs, List.length_take, List.length_drop]
      have fewer := FindRequest.length_found_le found
      omega
    have read : FindRequest.startOf page.bookmark = .ok (start + page.docs.length) :=
      (FindRequest.startOf_eq_ok shows).mpr ⟨rfl, within⟩
    -- The first answer leaves the documents as they are.
    have kept : (store.record database (search.page bookmark none (some size))).databases.get? database =
        some documents := held
    have others := ih kept rfl within read
    have shifted : ∀ n, items.drop (start + page.docs.length + n * size) =
        items.drop (start + (n + 1) * size) := fun n => by
      rw [shows.docs, drop_after_page, Nat.succ_mul]
      congr 1
      omega
    simp only [follow, answer, response, ok_bind, others, pure_eq_ok, List.range_succ_eq_map,
      List.map_cons, List.map_map, shifted]
    rw [shows.docs, Nat.zero_mul, Nat.add_zero]
    rfl

end Store

/-- Two pages that are asked for one after the other, the second by the bookmark of the first, are one page
of their joint size, if the documents have stayed the same. So pages of one size that are asked for in turn
show everything that a search finds once and in order, and then nothing. What is added up on the way
stays below 64 bits, as long as the documents can be counted in 64 bits. -/
theorem Store.pages_join (store : Store) (database : String) (search : FindRequest) :
    (∀ (later : Store) (skip : Option Nat) (first second : Nat) (page next : FindResponse),
      first + second < natBound64 →
        store.respond database (search.page none skip (some first)) = .ok page →
          later.databases.get? database = store.databases.get? database →
            later.respond database (search.page page.bookmark none (some second)) = .ok next →
              ∃ whole, store.respond database (search.page none skip (some (first + second))) = .ok whole ∧
                whole.docs = page.docs ++ next.docs ∧ whole.bookmark = next.bookmark) ∧
    ∀ documents, store.databases.get? database = some documents → documents.length < natBound64 →
      (∀ (items : List Json) (size count : Nat), store.failure = none →
        search.found documents = .ok items → size < natBound64 → items.length ≤ count * size →
          let pages := (List.range count).map fun n => (items.drop (n * size)).take size
          pages.flatten = items ∧ ∀ more,
            store.follow database search size (count + more) none = .ok (pages ++ List.replicate more [])) ∧
      ∀ (request : FindRequest) (response : FindResponse), store.respond database request = .ok response →
        ∃ bounds, request.pageBounds = .ok bounds ∧ bounds.start + response.docs.length < natBound64 ∧
          response.bookmark = some (writeBookmark (bounds.start + response.docs.length)) := by
  refine ⟨?_, fun documents held counted => ⟨?_, ?_⟩⟩
  · intro later skip first second page next words ofPage same ofNext
    obtain ⟨ready, documents, held, answered⟩ := Store.respond_eq_ok.mp ofPage
    obtain ⟨_, others, there, further⟩ := Store.respond_eq_ok.mp ofNext
    cases (there.symm.trans same).trans held
    obtain ⟨items, offset, found, begins, skipped, shows⟩ := FindRequest.shows_of_answer answered
    obtain ⟨again, reached, refound, reads, _, showsNext⟩ := FindRequest.shows_of_answer further
    cases refound.symm.trans found
    obtain ⟨rfl, word⟩ := (FindRequest.startOf_eq_ok shows).mp reads
    rw [FindRequest.pageStart_none word] at showsNext
    obtain ⟨whole, response, showsWhole⟩ :=
      FindRequest.exists_answer found begins skipped words store.warning
    exact ⟨whole, Store.respond_eq_ok.mpr ⟨ready, documents, held, response⟩,
      shows.append showsNext showsWhole⟩
  · intro items size count ready found word enough pages
    refine ⟨(flatten_pages items size count).trans (List.take_of_length_le enough), fun more => ?_⟩
    have begins : FindRequest.startOf none = .ok 0 := rfl
    have past : ∀ n, items.drop ((count + n) * size) = [] := fun n =>
      List.drop_eq_nil_of_le (by rw [Nat.add_mul]; omega)
    rw [Store.follow_eq held ready found counted word (count + more) (by decide) begins, List.range_add,
      List.map_append, List.map_map]
    simp only [Nat.zero_add, Function.comp_def, past, List.take_nil, List.map_const', List.length_range]
    rfl
  · intro request response responds
    obtain ⟨_, others, there, answered⟩ := Store.respond_eq_ok.mp responds
    cases there.symm.trans held
    exact FindRequest.bookmark_answer counted answered

/-- Grown people by their age, one after the first of them and then up to five more. -/
theorem Store.pages_join_people :
    let person (id : String) (age : Int) : Json := .object [("_id", .string id), ("age", .integer age)]
    let people :=
      [person "leia" 19, person "anakin" 9, person "han" 29, person "luke" 19, person "ben" 57]
    let store := Store.empty.withDatabase "people" people
    let search : FindRequest := ⟨[("selector", single "age" (single "$gt" (.integer 18))),
      ("sort", .array [.string "age"]), ("fields", .array [.string "_id"])]⟩
    let named (id : String) : Json := single "_id" (.string id)
    let page : FindResponse := ⟨[named "luke"], some (writeBookmark 2), none, none⟩
    let next : FindResponse := ⟨[named "han", named "ben"], some (writeBookmark 4), none, none⟩
    (store.respond "people" (search.page none (some 1) (some 1)) = .ok page ∧
      store.respond "people" (search.page page.bookmark none (some 5)) = .ok next ∧
      ∃ whole, store.respond "people" (search.page none (some 1) (some (1 + 5))) = .ok whole ∧
        whole.docs = page.docs ++ next.docs ∧ whole.bookmark = next.bookmark) ∧
    ∀ more, store.follow "people" search 3 (2 + more) none =
      .ok ([[named "leia", named "luke", named "han"], [named "ben"]] ++ List.replicate more []) := by
  intro person people store search named page next
  have first : store.respond "people" (search.page none (some 1) (some 1)) = .ok page := by rfl
  have second : store.respond "people" (search.page page.bookmark none (some 5)) = .ok next := by rfl
  obtain ⟨join, further⟩ := Store.pages_join store "people" search
  refine ⟨⟨first, second, join store (some 1) 1 5 page next (by decide) first rfl second⟩, ?_⟩
  have found : search.found people = .ok [named "leia", named "luke", named "han", named "ben"] := by rfl
  exact ((further people rfl (by decide)).1 _ 3 2 rfl found (by decide) (by decide)).2

end DocQuery
