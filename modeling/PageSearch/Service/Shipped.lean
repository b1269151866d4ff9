import PageSearch.Value.Basic

/-!
# Shipped settings

The settings that the service comes with: those of the service itself, of the page of results, of
the search, and the names under which connections to the engine are set.
-/

namespace PageSearch.Shipped

/-- The settings of the service. -/
def service : Value :=
  .obj [("app_name", .str "Webpage Search"), ("version", .str "0.1.0"), ("host", .str "0.0.0.0"),
    ("port", .obj [("prod", .int 21001), ("dev", .int 21011)])]

/-- The settings of the page of results. -/
def page : Value :=
  .obj [("snippet_length", .int 400), ("title_length", .int 70), ("results_per_page", .int 10)]

/-- A field of a simple search. -/
def weightedField (name : String) (boost : Int) : Value :=
  .obj [("name", .str name), ("boost", .int boost)]

/-- A field of a simple search whose words count more near each other. -/
def proximityField (name : String) (boost slop proximityBoost : Int) : Value :=
  .obj [("name", .str name), ("boost", .int boost), ("proximity_matching", .bool true),
    ("proximity_slop", .int slop), ("proximity_boost", .int proximityBoost)]

/-- The settings of a simple search. -/
def simpleSearch : Value :=
  .obj [("rescore_window", .int 400), ("node_limit", .int 200000),
    ("main_fields", .list [
      proximityField "title_lang.%lang%" 35 2 30,
      weightedField "meta_desc_lang.%lang%" 5,
      proximityField "body_lang.%lang%" 1 3 25,
      weightedField "headings_lang.%lang%" 5,
      weightedField "warc_target_path" 3]),
    ("query_filters", .list [
      .obj [("keyword", .str "site"), ("field", .str "warc_target_hostname.raw"),
        ("block_grouping", .bool true)],
      .obj [("keyword", .str "lang"), ("field", .str "lang")],
      .obj [("keyword", .str "#index"), ("field", .str "#index")]]),
    ("range_filters", .list [
      .obj [("name", .str "body_length"), ("gte", .int 600)],
      .obj [("name", .str "spam_rank"), ("lt", .int 70), ("negate", .bool true)]])]

/-- The settings of a phrase search. -/
def phraseSearch : Value :=
  .obj [("slop", .int 0), ("max_slop", .int 2), ("node_limit", .int 10000),
    ("fields", .list [weightedField "body_lang.%lang%" 1])]

/-- The settings of the search. -/
def search : Value :=
  .obj [("default_language", .str "en"), ("language_field", .str "lang"),
    ("hostname_field", .str "warc_target_hostname"),
    ("hostname_exact_field", .str "warc_target_hostname.raw"),
    ("indices", .strings ["cw12", "cc1511", "cc1704"]), ("default_indices", .strings ["cw12"]),
    ("timeout", .str "10s"), ("default_simple", simpleSearch), ("phrase_search", phraseSearch)]

/-- The connections, by names in small letters. -/
def connections : Fields :=
  [("elastic", .obj [("host", .str "https://localhost:9200"), ("ca_certs", .str ""),
    ("api_key", .str ""), ("request_timeout", .int 30)])]

/-- The name of the connection of a service that names none. -/
def defaultConnection : String := "elastic"

/-- The settings of the connection of a name, in letters of either size; nothing if there is none. -/
def connection (name : String) : Value := connections.getD (String.ofList (name.toList.map Char.toLower))

end PageSearch.Shipped
