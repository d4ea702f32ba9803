import V2Ray.Common.Errors
import V2Ray.App.Router.CIDRList
import V2Ray.App.Router.CIDRSort
import V2Ray.App.Router.SortClients
import V2Ray.App.Router.RoutingRule
import V2Ray.App.Router.BalancingRule
import V2Ray.App.Router.RoutingRuleLaws
import V2Ray.Transport.Internet.Config
