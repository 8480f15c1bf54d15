import QuerySets.Cache
import QuerySets.Json.Reader

/-!
Settings of the engine. All of them have defaults.
-/

namespace QuerySets

structure Config where
  dataPath : String
  cache : CacheConfig
  /-- The collection that scripts run on. -/
  scriptCollection : String

namespace Config

def default : Config := ⟨"xenia.db", CacheConfig.default, "query_scripts_target"⟩

def members : List (Json.Reader.Member Config) :=
  [.of "data_path" false .string fun dataPath c => { c with dataPath },
   .of "cache_capacity" false .word fun capacity c => { c with cache.capacity := capacity },
   .of "cache_ttl_secs" false .word fun lifetime c => { c with cache.lifetime := lifetime },
   .of "script_collection" false .string fun scriptCollection c => { c with scriptCollection }]

def reader : Json.Reader Config := .record "struct Config" members default

end Config

end QuerySets
