import WikiDump.Schema.Table
/-!
# The wiki tables

The schemas of the twenty-one tables that wiki SQL dumps publish, their lookup by name, and the
guess of a table from a dump's file name.

Identifier columns are unsigned 32-bit integers named for what they identify; namespace numbers
and page counts are signed 32-bit integers. Names are looked up exactly; an unknown name is
reported with every known name, in increasing order.
-/

namespace WikiDump

namespace Tables

def col (name key : String) (converter : Converter) : Column := ⟨name, key, converter, false⟩

def optional (name key : String) (converter : Converter) : Column := ⟨name, key, converter, true⟩

def category : Table := ⟨"category", [
  col "cat_id" "id" (.integer .categoryId),
  col "cat_title" "title" .title,
  col "cat_pages" "pages" (.integer .pageCount),
  col "cat_subcats" "subcats" (.integer .pageCount),
  col "cat_files" "files" (.integer .pageCount)]⟩

def categoryLinks : Table := ⟨"categorylinks", [
  col "cl_from" "from" (.integer .pageId),
  col "cl_to" "to" .title,
  col "cl_sortkey" "sortkey" .bytes,
  col "cl_timestamp" "timestamp" .timestamp,
  col "cl_sortkey_prefix" "sortkey_prefix" .bytes,
  col "cl_collation" "collation" (.text .plain),
  col "cl_type" "type" .pageType]⟩

def changeTagDefinitions : Table := ⟨"change_tag_def", [
  col "ctd_id" "id" (.integer .changeTagDefinitionId),
  col "ctd_name" "name" (.text .plain),
  col "ctd_user_defined" "user_defined" .boolean,
  col "ctd_count" "count" (.integer .uint64)]⟩

def changeTags : Table := ⟨"change_tag", [
  col "ct_id" "id" (.integer .changeTagId),
  optional "ct_rc_id" "recent_change_id" (.integer .recentChangeId),
  optional "ct_log_id" "log_id" (.integer .logId),
  optional "ct_rev_id" "revision_id" (.integer .revisionId),
  optional "ct_params" "params" .bytes,
  optional "ct_tag_id" "tag_id" (.integer .changeTagDefinitionId)]⟩

def externalLinks : Table := ⟨"externallinks", [
  col "el_id" "id" (.integer .externalLinkId),
  col "el_from" "from" (.integer .pageId),
  col "el_to" "to" .bytes,
  col "el_index" "index" .bytes,
  col "el_index_60" "index_60" .bytes]⟩

def images : Table := ⟨"image", [
  col "img_name" "name" .title,
  col "img_size" "size" (.integer .uint64),
  col "img_width" "width" (.integer .int32),
  col "img_height" "height" (.integer .int32),
  col "img_metadata" "metadata" .bytes,
  col "img_bits" "bits" (.integer .int32),
  col "img_media_type" "media_type" (.text .mediaType),
  col "img_major_mime" "major_mime" (.text .majorMime),
  col "img_minor_mime" "minor_mime" (.text .minorMime),
  col "img_description_id" "description_id" (.integer .commentId),
  col "img_actor" "actor" (.integer .actorId),
  col "img_timestamp" "timestamp" .timestamp,
  col "img_sha1" "sha1" (.text .sha1),
  col "img_deleted" "deleted" (.integer .int8)]⟩

def imageLinks : Table := ⟨"imagelinks", [
  col "il_from" "from" (.integer .pageId),
  col "il_from_namespace" "from_namespace" (.integer .namespaceNumber),
  col "il_to" "to" .title]⟩

def interwikiLinks : Table := ⟨"iwlinks", [
  col "iwl_from" "from" (.integer .pageId),
  col "iwl_prefix" "prefix" (.text .plain),
  col "iwl_title" "title" .title]⟩

def languageLinks : Table := ⟨"langlinks", [
  col "ll_from" "from" (.integer .pageId),
  col "ll_lang" "lang" (.text .caseInsensitive),
  col "ll_title" "title" (.text .fullTitle)]⟩

def pages : Table := ⟨"page", [
  col "page_id" "id" (.integer .pageId),
  col "page_namespace" "namespace" (.integer .namespaceNumber),
  col "page_title" "title" .title,
  col "page_is_redirect" "is_redirect" .boolean,
  col "page_is_new" "is_new" .boolean,
  col "page_random" "random" .number,
  col "page_touched" "touched" .timestamp,
  optional "page_links_updated" "links_updated" .timestamp,
  col "page_latest" "latest" (.integer .revisionId),
  col "page_len" "len" (.integer .uint32),
  optional "page_content_model" "content_model" (.text .contentModel),
  optional "page_lang" "lang" (.text .caseInsensitive)]⟩

def pageLinks : Table := ⟨"pagelinks", [
  col "pl_from" "from" (.integer .pageId),
  col "pl_from_namespace" "from_namespace" (.integer .namespaceNumber),
  col "pl_namespace" "namespace" (.integer .namespaceNumber),
  col "pl_title" "title" .title]⟩

def pageProps : Table := ⟨"page_props", [
  col "pp_page" "page" (.integer .pageId),
  col "pp_propname" "propname" (.text .plain),
  col "pp_value" "value" .bytes,
  optional "pp_sortkey" "sortkey" .number]⟩

def pageRestrictions : Table := ⟨"page_restrictions", [
  col "pr_page" "page" (.integer .pageId),
  col "pr_type" "type" (.text .pageAction),
  col "pr_level" "level" (.text .protectionLevel),
  col "pr_cascade" "cascade" .boolean,
  optional "pr_user" "user" (.integer .userId),
  optional "pr_expiry" "expiry" .expiry,
  col "pr_id" "id" (.integer .pageRestrictionId)]⟩

def protectedTitles : Table := ⟨"protected_titles", [
  col "pt_namespace" "namespace" (.integer .namespaceNumber),
  col "pt_title" "title" .title,
  col "pt_user" "user" (.integer .userId),
  col "pt_reason_id" "reason_id" (.integer .commentId),
  col "pt_timestamp" "timestamp" .timestamp,
  col "pt_expiry" "expiry" .expiry,
  col "pt_create_perm" "create_perm" (.text .protectionLevel)]⟩

def redirects : Table := ⟨"redirect", [
  col "rd_from" "from" (.integer .pageId),
  col "rd_namespace" "namespace" (.integer .namespaceNumber),
  col "rd_title" "title" .title,
  optional "rd_interwiki" "interwiki" (.text .plain),
  optional "rd_fragment" "fragment" (.text .plain)]⟩

def sites : Table := ⟨"sites", [
  col "site_id" "id" (.integer .uint32),
  col "site_global_key" "global_key" (.text .caseInsensitive),
  col "site_type" "type" (.text .plain),
  col "site_group" "group" (.text .plain),
  col "site_source" "source" (.text .plain),
  col "site_language" "language" (.text .plain),
  col "site_protocol" "protocol" (.text .plain),
  col "site_domain" "domain" .bytes,
  col "site_data" "data" .bytes,
  col "site_forward" "forward" .boolean,
  col "site_config" "config" .bytes]⟩

def siteStats : Table := ⟨"site_stats", [
  col "ss_row_id" "row_id" (.integer .uint32),
  optional "ss_total_edits" "total_edits" (.integer .uint64),
  optional "ss_good_articles" "good_articles" (.integer .uint64),
  optional "ss_total_pages" "total_pages" (.integer .uint64),
  optional "ss_users" "users" (.integer .uint64),
  optional "ss_active_users" "active_users" (.integer .uint64),
  optional "ss_images" "images" (.integer .uint64)]⟩

def templateLinks : Table := ⟨"templatelinks", [
  col "tl_from" "from" (.integer .pageId),
  col "tl_namespace" "namespace" (.integer .namespaceNumber),
  col "tl_title" "title" .title,
  col "tl_from_namespace" "from_namespace" (.integer .namespaceNumber)]⟩

def userFormerGroups : Table := ⟨"user_former_groups", [
  col "ufg_user" "user" (.integer .userId),
  col "ufg_group" "group" (.text .userGroup)]⟩

def userGroups : Table := ⟨"user_groups", [
  col "ug_user" "user" (.integer .userId),
  col "ug_group" "group" (.text .userGroup),
  optional "ug_expiry" "expiry" .expiry]⟩

def entityUsage : Table := ⟨"wbc_entity_usage", [
  col "eu_row_id" "row_id" (.integer .uint64),
  col "eu_entity_id" "entity_id" (.text .plain),
  col "eu_aspect" "aspect" (.text .plain),
  col "eu_page_id" "page_id" (.integer .pageId)]⟩

def all : List Table :=
  [category, categoryLinks, changeTags, changeTagDefinitions, externalLinks, images, imageLinks,
    interwikiLinks, languageLinks, pages, pageProps, pageRestrictions, pageLinks,
    protectedTitles, redirects, siteStats, sites, templateLinks, userFormerGroups, userGroups,
    entityUsage]

def names : List String := all.map (·.name)

def lookup? (name : String) : Option Table := all.find? (·.name == name)

def unknownMessage (name : String) : String :=
  "unknown table " ++ Quoted.ofString name ++ " (known: " ++ ", ".intercalate names ++ ")"

def lookup (name : String) : Except String Table :=
  match lookup? name with
  | some t => .ok t
  | none => .error (unknownMessage name)

/-- The last element of a slash-separated path, as file names are taken: trailing slashes are
ignored, an empty path is `.`, and a path of slashes only is `/`. -/
def baseName (path : String) : String :=
  if path.isEmpty then "."
  else
    let parts := (path.splitOn "/").reverse.dropWhile String.isEmpty
    match parts with
    | [] => "/"
    | last :: _ => last

def dropSuffix (s suffix : String) : String :=
  if s.endsWith suffix then String.ofList (s.toList.take (s.length - suffix.length)) else s

/-- Guesses the table of a dump file: the base name without `.gz`, `.xz` and `.sql` (each taken
off once, in that order) if that is a table's name; else the part after its last `-` if that
is one (dumps are named `wiki-date-table`); else the bare base name. -/
def ofPath (path : String) : String :=
  let base := [".gz", ".xz", ".sql"].foldl dropSuffix (baseName path)
  if (lookup? base).isSome then base
  else
    let last := ((base.splitOn "-").getLast?).getD base
    if base.contains '-' && (lookup? last).isSome then last else base

end Tables

end WikiDump

