import QueryKit.Cache.Config
import QueryKit.Error
import QueryKit.Optimizer.Basic
import QueryKit.Query.Basic
import QueryKit.Statement.Cache

/-!
# Engine configuration
-/

namespace QueryKit

/-- The configuration of an engine. -/
structure EngineConfig where
  /-- The cache of results. -/
  cache : CacheConfig
  statements : StatementConfig
  optimizer : OptimizerConfig
  /-- The space of queries that do not choose one. -/
  defaultSpace : String
  deriving DecidableEq

namespace EngineConfig

/-- The default configuration. -/
def standard : EngineConfig where
  cache := CacheConfig.standard
  statements := StatementConfig.standard
  optimizer := OptimizerConfig.standard
  defaultSpace := QueryKit.defaultSpace

/-- Checks the default space, the cache size and the statement cache size, in this
order. -/
def validate (config : EngineConfig) : Except ConfigError Unit :=
  if Text.isBlankText config.defaultSpace then .error .emptyDefaultSpace
  else if config.cache.maxSize = 0 then .error .zeroCacheSize
  else if config.statements.maxSize = 0 then .error .zeroStatementSize
  else .ok ()

end EngineConfig

end QueryKit
