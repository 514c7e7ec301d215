import InventoryCrawler.Thread
import InventoryCrawler.Resource
import InventoryCrawler.Accept
import InventoryCrawler.Pool
import InventoryCrawler.Walk
import InventoryCrawler.Registry
import InventoryCrawler.Order
import InventoryCrawler.Outcome
import InventoryCrawler.Stack
import InventoryCrawler.Warnings
import InventoryCrawler.Ownership
import InventoryCrawler.Heap
import InventoryCrawler.Barrier
import InventoryCrawler.Roots
import InventoryCrawler.Kubernetes
import InventoryCrawler.Getters
import InventoryCrawler.Cache
import InventoryCrawler.Prefill
import InventoryCrawler.Project
import InventoryCrawler.InstanceGroups
import InventoryCrawler.Factory
import InventoryCrawler.Iterators
import InventoryCrawler.Catalog
import InventoryCrawler.Generate
import InventoryCrawler.Provenance
import InventoryCrawler.Policies
