import BookmarkSync.Trees
import BookmarkSync.FormUrlencoded

/-!
# BookmarkSync.QueryRewrite — what ingestion does to a query's `place:` URL

`determine_query_url_and_validity` reads the parameters of a query's `place:` URL from its
path with `url::form_urlencoded::parse`, and rewrites two kinds of Desktop query:

* `type=7` (`RESULTS_AS_TAG_CONTENTS`) becomes `place:tag=` and the record's trimmed
  `tagFolderName`, marked `Reupload`;
* a `folder=` query without `excludeItems=1` gets its parameters written back with
  `form_urlencoded::Serializer` and `excludeItems=1` after them, marked `Reupload`.

`Env` leaves the `url` crate abstract; `Env.UrlCrate` says what these results need of it:
its form-urlencoding is `FormUrlencoded`'s, and `Url::parse` keeps a `place:` URL written
with the serializer's bytes as it is (none of them is percent-encoded in a path, and none
ends one).

What holds:

* `storeIncomingQuery_folder_keeps_pairs` — the folder rewrite keeps every parameter, with
  its name, its value and its place, and adds `excludeItems=1` last;
* `planOf_folder_rewrite_fixpoint` — a folder query's rewritten URL, downloaded again,
  is stored as it is and `Valid`;
* `storeIncomingQuery_tag_rewritten_again` — the tag rewrite is no such fixpoint: the tag
  is written into the URL unescaped, so a tag holding `&type=7` gives a URL that the next
  ingestion rewrites once more, to another URL.
-/

namespace BookmarkSync

/-! ## Trimming a concrete tag

`str::trim` is `String.dropWhile` and `String.dropRightWhile`, which recurse on byte
positions; these lemmas evaluate it on a string that starts and ends with a character it
keeps. -/

theorem dropRightWhile_append_singleton (p : Char → Bool) (cs : List Char) (d : Char)
    (hd : p d = false) : (String.mk (cs ++ [d])).dropRightWhile p = ⟨cs ++ [d]⟩ := by
  simp only [String.dropRightWhile, Substring.dropRightWhile, String.toSubstring]
  rw [Substring.takeRightWhileAux]
  have hpos : ({ byteIdx := 0 } : String.Pos) < String.endPos ⟨cs ++ [d]⟩ := by
    show 0 < String.utf8Len (cs ++ [d])
    have := Char.utf8Size_pos d
    simp only [String.utf8Len_append, String.utf8Len_cons, String.utf8Len_nil]
    omega
  rw [dif_pos hpos]
  have hprev : String.prev ⟨cs ++ [d]⟩ (String.endPos ⟨cs ++ [d]⟩) = ⟨String.utf8Len cs⟩ := by
    simpa using String.prev_of_valid cs d []
  simp only [hprev, String.get_of_valid cs [d], List.headD_cons, hd, Bool.not_false, if_true]
  exact String.extract_zero_endPos _

/-- A string whose first and last characters are not white space is its own trim. -/
theorem strTrim_of_ends (cs : List Char) (d : Char)
    (hc : ∀ c ∈ (cs ++ [d]).head?, isWhiteSpace c = false) (hd : isWhiteSpace d = false) :
    strTrim ⟨cs ++ [d]⟩ = ⟨cs ++ [d]⟩ := by
  have hl : (cs ++ [d]).dropWhile isWhiteSpace = cs ++ [d] := by
    cases cs with
    | nil => simp [List.dropWhile, hd]
    | cons c cs => simp [List.dropWhile, hc c (by simp)]
  rw [strTrim, String.dropWhile_eq, hl, dropRightWhile_append_singleton _ _ _ hd]

/-! ## The `url` crate -/

/-- What the rewrite needs of the `url` crate: its form-urlencoding, and `Url::parse`
keeping a `place:` URL as written when its path has only bytes the serializer writes. -/
structure Env.UrlCrate (env : Env) : Prop where
  parse_eq : env.formUrlencodedParse = FormUrlencoded.parse
  serialize_eq : env.formUrlencodedSerialize = FormUrlencoded.serialize
  parseUrl_place : ∀ tail : String,
    (∀ c ∈ tail.data, FormUrlencoded.isSerialized c.toNat = true) →
      env.parseUrl ("place:" ++ tail) = some ⟨"place:" ++ tail, tail⟩

/-- `Env.sample` with the `url` crate's form-urlencoding. -/
def Env.formSample : Env :=
  { Env.sample with
    formUrlencodedParse := FormUrlencoded.parse
    formUrlencodedSerialize := FormUrlencoded.serialize }

theorem Env.formSample_parseUrl_place (tail : String) :
    Env.formSample.parseUrl ("place:" ++ tail) = some ⟨"place:" ++ tail, tail⟩ := by
  simp [Env.formSample, Env.sample, List.span_eq_take_drop, String.append, List.takeWhile,
    List.dropWhile]

theorem Env.formSample_urlCrate : Env.formSample.UrlCrate :=
  ⟨rfl, rfl, fun tail _ => Env.formSample_parseUrl_place tail⟩

/-! ## The folder rewrite -/

section Folder

variable {env : Env}

/-- The query rewrite of a URL whose parameters name a folder, do not exclude items, and
are no tag query: the parameters, then `excludeItems=1`, serialized after `place:`. -/
theorem rewriteQueryUrl_folder (henv : env.UrlCrate) (q : QueryRecord) {url : Url}
    (hfolder : ∃ v, ("folder", v) ∈ FormUrlencoded.parse url.path)
    (hex : ("excludeItems", "1") ∉ FormUrlencoded.parse url.path)
    (htype : ("type", "7") ∉ FormUrlencoded.parse url.path) :
    rewriteQueryUrl env q url =
      .ok (some ⟨"place:" ++ FormUrlencoded.serialize
          (FormUrlencoded.parse url.path ++ [("excludeItems", "1")]),
        FormUrlencoded.serialize (FormUrlencoded.parse url.path ++ [("excludeItems", "1")])⟩,
        .reupload) := by
  obtain ⟨v, hv⟩ := hfolder
  have hany : (FormUrlencoded.parse url.path).any (fun kv => kv.1 == "folder") = true :=
    List.any_eq_true.2 ⟨_, hv, by simp⟩
  simp only [rewriteQueryUrl, henv.parse_eq, henv.serialize_eq, resultsAsTagContents, hany,
    urlParse, henv.parseUrl_place _ (FormUrlencoded.serialize_isSerialized _)]
  simp [htype, hex]

/-- The query rewrite of a URL whose parameters name a folder, exclude items already, and
are no tag query: the URL as it is, `Valid`. -/
theorem rewriteQueryUrl_folder_excluded (henv : env.UrlCrate) (q : QueryRecord) {url : Url}
    (hfolder : ∃ v, ("folder", v) ∈ FormUrlencoded.parse url.path)
    (hex : ("excludeItems", "1") ∈ FormUrlencoded.parse url.path)
    (htype : ("type", "7") ∉ FormUrlencoded.parse url.path) :
    rewriteQueryUrl env q url = .ok (some url, .valid) := by
  obtain ⟨v, hv⟩ := hfolder
  have hany : (FormUrlencoded.parse url.path).any (fun kv => kv.1 == "folder") = true :=
    List.any_eq_true.2 ⟨_, hv, by simp⟩
  have hexany : (FormUrlencoded.parse url.path).any
      (fun kv => kv.1 == "excludeItems" && kv.2 == "1") = true :=
    List.any_eq_true.2 ⟨_, hex, by simp⟩
  simp only [rewriteQueryUrl, henv.parse_eq, resultsAsTagContents, hany, hexany]
  simp [htype]
  rfl

/-- A query whose URL parses and rewrites to a URL within `URL_LENGTH_MAX` plans to store
that URL, with the validity of the rewrite. -/
theorem planOf_query_of_rewrite (modified : ServerTimestamp) {q : QueryRecord} {url u' : Url}
    {validity : SyncedBookmarkValidity} (hurl : q.url.bind env.parseUrl = some url)
    (hr : rewriteQueryUrl env q url = .ok (some u', validity))
    (hlen : u'.serialization.utf8ByteSize ≤ env.urlLengthMax) :
    ∃ pl, planOf env modified (.query q) = .ok pl ∧ pl.url = some u'.serialization ∧
      pl.row.validity = validity := by
  have hst : storableUrl env u' = some u' := by simp [storableUrl, hlen]
  simp only [planOf, hurl, hr, liftErr_ok]
  refine ⟨_, rfl, ?_, ?_⟩ <;> simp [hst]

/-- The folder rewrite keeps the parameters: a query whose `place:` URL names a folder,
does not exclude items and is no tag query, and whose rewritten URL fits in
`URL_LENGTH_MAX`, is stored with a `place:` URL whose parameters are the old ones, with
their names, values and order, then `excludeItems=1`; and it is marked `Reupload`. -/
theorem storeIncomingQuery_folder_keeps_pairs (henv : env.UrlCrate)
    (modified : ServerTimestamp) (q : QueryRecord) (href : String) (u : Url)
    (hhref : q.url = some href) (hu : env.parseUrl href = some u)
    (hfolder : ∃ v, ("folder", v) ∈ FormUrlencoded.parse u.path)
    (hex : ("excludeItems", "1") ∉ FormUrlencoded.parse u.path)
    (htype : ("type", "7") ∉ FormUrlencoded.parse u.path)
    (hlen : ("place:" ++ FormUrlencoded.serialize
      (FormUrlencoded.parse u.path ++ [("excludeItems", "1")])).utf8ByteSize ≤ env.urlLengthMax) :
    ∃ u' : Url, u'.serialization = "place:" ++ u'.path ∧
      FormUrlencoded.parse u'.path = FormUrlencoded.parse u.path ++ [("excludeItems", "1")] ∧
      ∃ pl : Plan, planOf env modified (.query q) = .ok pl ∧ pl.url = some u'.serialization ∧
        pl.row.validity = .reupload ∧
        ∀ db, storeIncomingQuery env modified q db = .ok (pl.run env db) := by
  have hurl : q.url.bind env.parseUrl = some u := by simp [hhref, hu]
  obtain ⟨pl, hpl, hplurl, hplv⟩ := planOf_query_of_rewrite modified hurl
    (rewriteQueryUrl_folder henv q hfolder hex htype) hlen
  refine ⟨_, rfl, FormUrlencoded.parse_serialize _, pl, hpl, hplurl, hplv, fun db => ?_⟩
  rw [storeIncomingQuery_eq, hpl]
  rfl

theorem storeIncomingQuery_folder_keeps_pairs_sample :
    Env.formSample.UrlCrate ∧ Env.formSample.parseUrl "place:folder=123" =
      some ⟨"place:folder=123", "folder=123"⟩ ∧
    (∃ v, ("folder", v) ∈ FormUrlencoded.parse "folder=123") ∧
    ("excludeItems", "1") ∉ FormUrlencoded.parse "folder=123" ∧
    ("type", "7") ∉ FormUrlencoded.parse "folder=123" ∧
    ("place:" ++ FormUrlencoded.serialize
      (FormUrlencoded.parse "folder=123" ++ [("excludeItems", "1")])).utf8ByteSize ≤
        Env.formSample.urlLengthMax ∧
    ∃ u' : Url, u'.serialization = "place:" ++ u'.path ∧
      FormUrlencoded.parse u'.path =
        FormUrlencoded.parse "folder=123" ++ [("excludeItems", "1")] ∧
      ∃ pl : Plan, planOf Env.formSample ⟨1⟩ (.query ⟨"queryAAAAAAA", none, false, none,
          none, none, some "place:folder=123", none⟩) = .ok pl ∧
        pl.url = some u'.serialization ∧ pl.row.validity = .reupload ∧
        ∀ db, storeIncomingQuery Env.formSample ⟨1⟩ ⟨"queryAAAAAAA", none, false, none,
          none, none, some "place:folder=123", none⟩ db = .ok (pl.run Env.formSample db) :=
  ⟨Env.formSample_urlCrate, Env.formSample_parseUrl_place "folder=123", ⟨"123", by decide⟩,
    by decide, by decide, by decide,
    storeIncomingQuery_folder_keeps_pairs Env.formSample_urlCrate ⟨1⟩ _ "place:folder=123"
      ⟨"place:folder=123", "folder=123"⟩ rfl (Env.formSample_parseUrl_place "folder=123")
      ⟨"123", by decide⟩ (by decide) (by decide) (by decide)⟩

/-- The folder rewrite is a fixpoint: the URL a folder query is stored with, downloaded
again in a query record with any tag folder name, is stored as it is and `Valid`. -/
theorem planOf_folder_rewrite_fixpoint (henv : env.UrlCrate)
    (modified : ServerTimestamp) (q : QueryRecord) (href : String) (u : Url)
    (hhref : q.url = some href) (hu : env.parseUrl href = some u)
    (hfolder : ∃ v, ("folder", v) ∈ FormUrlencoded.parse u.path)
    (hex : ("excludeItems", "1") ∉ FormUrlencoded.parse u.path)
    (htype : ("type", "7") ∉ FormUrlencoded.parse u.path)
    (hlen : ("place:" ++ FormUrlencoded.serialize
      (FormUrlencoded.parse u.path ++ [("excludeItems", "1")])).utf8ByteSize ≤ env.urlLengthMax) :
    ∃ pl : Plan, planOf env modified (.query q) = .ok pl ∧ pl.row.validity = .reupload ∧
      ∀ (modified' : ServerTimestamp) (q' : QueryRecord), q'.url = pl.url →
        ∃ pl' : Plan, planOf env modified' (.query q') = .ok pl' ∧ pl'.url = pl.url ∧
          pl'.row.validity = .valid := by
  have hurl : q.url.bind env.parseUrl = some u := by simp [hhref, hu]
  obtain ⟨pl, hpl, hplurl, hplv⟩ := planOf_query_of_rewrite modified hurl
    (rewriteQueryUrl_folder henv q hfolder hex htype) hlen
  refine ⟨pl, hpl, hplv, fun modified' q' hq' => ?_⟩
  obtain ⟨v, hv⟩ := hfolder
  let u' : Url := ⟨"place:" ++ FormUrlencoded.serialize
    (FormUrlencoded.parse u.path ++ [("excludeItems", "1")]), FormUrlencoded.serialize
    (FormUrlencoded.parse u.path ++ [("excludeItems", "1")])⟩
  have hpairs : FormUrlencoded.parse u'.path =
      FormUrlencoded.parse u.path ++ [("excludeItems", "1")] :=
    FormUrlencoded.parse_serialize _
  have hurl' : q'.url.bind env.parseUrl = some u' := by
    rw [hq', hplurl, Option.some_bind]
    exact henv.parseUrl_place _ (FormUrlencoded.serialize_isSerialized _)
  have hfolder' : ∃ v, ("folder", v) ∈ FormUrlencoded.parse u'.path :=
    ⟨v, hpairs ▸ List.mem_append_left _ hv⟩
  have hex' : ("excludeItems", "1") ∈ FormUrlencoded.parse u'.path := by
    rw [hpairs]
    simp
  have htype' : ("type", "7") ∉ FormUrlencoded.parse u'.path := by
    rw [hpairs]
    simpa using htype
  obtain ⟨pl', hpl', hplurl', hplv'⟩ := planOf_query_of_rewrite modified' hurl'
    (rewriteQueryUrl_folder_excluded henv q' hfolder' hex' htype') hlen
  exact ⟨pl', hpl', hplurl'.trans hplurl.symm, hplv'⟩

theorem planOf_folder_rewrite_fixpoint_sample :
    ∃ pl : Plan, planOf Env.formSample ⟨1⟩ (.query ⟨"queryAAAAAAA", none, false, none,
        none, none, some "place:folder=123", none⟩) = .ok pl ∧ pl.row.validity = .reupload ∧
      ∀ (modified' : ServerTimestamp) (q' : QueryRecord), q'.url = pl.url →
        ∃ pl' : Plan, planOf Env.formSample modified' (.query q') = .ok pl' ∧ pl'.url = pl.url ∧
          pl'.row.validity = .valid :=
  planOf_folder_rewrite_fixpoint Env.formSample_urlCrate ⟨1⟩ _ "place:folder=123"
    ⟨"place:folder=123", "folder=123"⟩ rfl (Env.formSample_parseUrl_place "folder=123")
    ⟨"123", by decide⟩ (by decide) (by decide) (by decide)

end Folder

/-! ## The tag rewrite -/

/-- The tag rewrite is not a fixpoint. `format!("place:tag={}", tag)` writes the tag into
the URL as it is, so a tag holding `&type=7` makes a URL whose parameters still ask for
a tag's contents: downloaded again with another tag folder name, it is rewritten once
more, to another URL, and marked `Reupload` again. -/
theorem storeIncomingQuery_tag_rewritten_again :
    match storeIncomingQuery Env.formSample ⟨1⟩ ⟨"queryAAAAAAA", none, false, none, none,
        none, some "place:type=7", some "x&type=7"⟩ Db.empty with
    | .ok db =>
      db.synced.map (fun v => (v.validity, placeUrl db.places v.placeId)) =
          [(.reupload, some "place:tag=x&type=7")] ∧
        match storeIncomingQuery Env.formSample ⟨2⟩ ⟨"queryAAAAAAA", none, false, none, none,
            none, some "place:tag=x&type=7", some "y"⟩ db with
        | .ok db' => db'.synced.map (fun v => (v.validity, placeUrl db'.places v.placeId)) =
            [(.reupload, some "place:tag=y")]
        | .error _ => False
    | .error _ => False := by
  have hx : strTrim "x&type=7" = "x&type=7" :=
    strTrim_of_ends ['x', '&', 't', 'y', 'p', 'e', '='] '7' (by decide) (by decide)
  have hy : strTrim "y" = "y" := strTrim_of_ends [] 'y' (by decide) (by decide)
  simp only [storeIncomingQuery, determineQueryUrlAndValidity, rewriteQueryUrl, validateTag, hx,
    hy]
  split
  next _ h =>
    cases h
    refine ⟨by decide, ?_⟩
    split
    next _ h =>
      cases h
      decide
    next h => cases h
  next h => cases h

end BookmarkSync
