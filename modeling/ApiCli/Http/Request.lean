import ApiCli.Http.Header
import ApiCli.Http.Method
import ApiCli.Url.Basic

/-! # Requests

A request that is ready to be sent. -/

namespace ApiCli

structure Request where
  method : Method
  url : Url
  headers : Headers
  deriving DecidableEq

end ApiCli
